namespace QueryWatch.HostName.Forms

def presentationRuns : Array (Nat × Nat × Nat × Nat) := #[
  (0xfb20, 0xfb20, 1, 0x5e2), (0xfb21, 0xfb21, 1, 0x5d0), (0xfb22, 0xfb23, 1, 0x5d3),
    (0xfb24, 0xfb26, 1, 0x5db), (0xfb27, 0xfb27, 1, 0x5e8), (0xfb28, 0xfb28, 1, 0x5ea),
    (0xfb29, 0xfb29, 1, 0x2b), (0xfb50, 0xfb50, 1, 0x671), (0xfb51, 0xfb51, 1, 0x671),
    (0xfb52, 0xfb52, 1, 0x67b), (0xfb53, 0xfb53, 1, 0x67b), (0xfb54, 0xfb54, 1, 0x67b),
    (0xfb55, 0xfb55, 1, 0x67b), (0xfb56, 0xfb56, 1, 0x67e), (0xfb57, 0xfb57, 1, 0x67e),
    (0xfb58, 0xfb58, 1, 0x67e), (0xfb59, 0xfb59, 1, 0x67e), (0xfb5a, 0xfb5a, 1, 0x680),
    (0xfb5b, 0xfb5b, 1, 0x680), (0xfb5c, 0xfb5c, 1, 0x680), (0xfb5d, 0xfb5d, 1, 0x680),
    (0xfb5e, 0xfb5e, 1, 0x67a), (0xfb5f, 0xfb5f, 1, 0x67a), (0xfb60, 0xfb60, 1, 0x67a),
    (0xfb61, 0xfb61, 1, 0x67a), (0xfb62, 0xfb62, 1, 0x67f), (0xfb63, 0xfb63, 1, 0x67f),
    (0xfb64, 0xfb64, 1, 0x67f), (0xfb65, 0xfb65, 1, 0x67f), (0xfb66, 0xfb66, 1, 0x679),
    (0xfb67, 0xfb67, 1, 0x679), (0xfb68, 0xfb68, 1, 0x679), (0xfb69, 0xfb69, 1, 0x679),
    (0xfb6a, 0xfb6a, 1, 0x6a4), (0xfb6b, 0xfb6b, 1, 0x6a4), (0xfb6c, 0xfb6c, 1, 0x6a4),
    (0xfb6d, 0xfb6d, 1, 0x6a4), (0xfb6e, 0xfb6e, 1, 0x6a6), (0xfb6f, 0xfb6f, 1, 0x6a6),
    (0xfb70, 0xfb70, 1, 0x6a6), (0xfb71, 0xfb71, 1, 0x6a6), (0xfb72, 0xfb72, 1, 0x684),
    (0xfb73, 0xfb73, 1, 0x684), (0xfb74, 0xfb74, 1, 0x684), (0xfb75, 0xfb75, 1, 0x684),
    (0xfb76, 0xfb76, 1, 0x683), (0xfb77, 0xfb77, 1, 0x683), (0xfb78, 0xfb78, 1, 0x683),
    (0xfb79, 0xfb79, 1, 0x683), (0xfb7a, 0xfb7a, 1, 0x686), (0xfb7b, 0xfb7b, 1, 0x686),
    (0xfb7c, 0xfb7c, 1, 0x686), (0xfb7d, 0xfb7e, 1, 0x686), (0xfb7f, 0xfb7f, 1, 0x687),
    (0xfb80, 0xfb80, 1, 0x687), (0xfb81, 0xfb81, 1, 0x687), (0xfb82, 0xfb82, 1, 0x68d),
    (0xfb83, 0xfb83, 1, 0x68d), (0xfb84, 0xfb84, 1, 0x68c), (0xfb85, 0xfb85, 1, 0x68c),
    (0xfb86, 0xfb86, 1, 0x68e), (0xfb87, 0xfb87, 1, 0x68e), (0xfb88, 0xfb88, 1, 0x688),
    (0xfb89, 0xfb89, 1, 0x688), (0xfb8a, 0xfb8a, 1, 0x698), (0xfb8b, 0xfb8b, 1, 0x698),
    (0xfb8c, 0xfb8c, 1, 0x691), (0xfb8d, 0xfb8d, 1, 0x691), (0xfb8e, 0xfb8e, 1, 0x6a9),
    (0xfb8f, 0xfb8f, 1, 0x6a9), (0xfb90, 0xfb90, 1, 0x6a9), (0xfb91, 0xfb91, 1, 0x6a9),
    (0xfb92, 0xfb92, 1, 0x6af), (0xfb93, 0xfb93, 1, 0x6af), (0xfb94, 0xfb94, 1, 0x6af),
    (0xfb95, 0xfb95, 1, 0x6af), (0xfb96, 0xfb96, 1, 0x6b3), (0xfb97, 0xfb97, 1, 0x6b3),
    (0xfb98, 0xfb98, 1, 0x6b3), (0xfb99, 0xfb99, 1, 0x6b3), (0xfb9a, 0xfb9a, 1, 0x6b1),
    (0xfb9b, 0xfb9b, 1, 0x6b1), (0xfb9c, 0xfb9c, 1, 0x6b1), (0xfb9d, 0xfb9d, 1, 0x6b1),
    (0xfb9e, 0xfb9e, 1, 0x6ba), (0xfb9f, 0xfba0, 1, 0x6ba), (0xfba1, 0xfba1, 1, 0x6bb),
    (0xfba2, 0xfba2, 1, 0x6bb), (0xfba3, 0xfba3, 1, 0x6bb), (0xfba4, 0xfba4, 1, 0x6c0),
    (0xfba5, 0xfba6, 1, 0x6c0), (0xfba7, 0xfba7, 1, 0x6c1), (0xfba8, 0xfba8, 1, 0x6c1),
    (0xfba9, 0xfba9, 1, 0x6c1), (0xfbaa, 0xfbaa, 1, 0x6be), (0xfbab, 0xfbab, 1, 0x6be),
    (0xfbac, 0xfbac, 1, 0x6be), (0xfbad, 0xfbad, 1, 0x6be), (0xfbae, 0xfbae, 1, 0x6d2),
    (0xfbaf, 0xfbb0, 1, 0x6d2), (0xfbb1, 0xfbb1, 1, 0x6d3), (0xfbd3, 0xfbd3, 1, 0x6ad),
    (0xfbd4, 0xfbd4, 1, 0x6ad), (0xfbd5, 0xfbd5, 1, 0x6ad), (0xfbd6, 0xfbd6, 1, 0x6ad),
    (0xfbd7, 0xfbd7, 1, 0x6c7), (0xfbd8, 0xfbd8, 1, 0x6c7), (0xfbd9, 0xfbd9, 1, 0x6c6),
    (0xfbda, 0xfbda, 1, 0x6c6), (0xfbdb, 0xfbdb, 1, 0x6c8), (0xfbdc, 0xfbdc, 1, 0x6c8),
    (0xfbde, 0xfbde, 1, 0x6cb), (0xfbdf, 0xfbdf, 1, 0x6cb), (0xfbe0, 0xfbe0, 1, 0x6c5),
    (0xfbe1, 0xfbe1, 1, 0x6c5), (0xfbe2, 0xfbe2, 1, 0x6c9), (0xfbe3, 0xfbe3, 1, 0x6c9),
    (0xfbe4, 0xfbe4, 1, 0x6d0), (0xfbe5, 0xfbe5, 1, 0x6d0), (0xfbe6, 0xfbe6, 1, 0x6d0),
    (0xfbe7, 0xfbe7, 1, 0x6d0), (0xfbe8, 0xfbe8, 1, 0x649), (0xfbe9, 0xfbe9, 1, 0x649),
    (0xfbfc, 0xfbfc, 1, 0x6cc), (0xfbfd, 0xfbfd, 1, 0x6cc), (0xfbfe, 0xfbfe, 1, 0x6cc),
    (0xfbff, 0xfbff, 1, 0x6cc), (0xfe10, 0xfe10, 1, 0x2c), (0xfe11, 0xfe11, 1, 0x3001),
    (0xfe13, 0xfe14, 1, 0x3a), (0xfe15, 0xfe15, 1, 0x21), (0xfe16, 0xfe16, 1, 0x3f),
    (0xfe17, 0xfe18, 1, 0x3016), (0xfe31, 0xfe31, 1, 0x2014), (0xfe32, 0xfe32, 1, 0x2013),
    (0xfe33, 0xfe33, 1, 0x5f), (0xfe34, 0xfe34, 1, 0x5f), (0xfe35, 0xfe36, 1, 0x28),
    (0xfe37, 0xfe37, 1, 0x7b), (0xfe38, 0xfe38, 1, 0x7d), (0xfe39, 0xfe3a, 1, 0x3014),
    (0xfe3b, 0xfe3c, 1, 0x3010), (0xfe3d, 0xfe3e, 1, 0x300a), (0xfe3f, 0xfe40, 1, 0x3008),
    (0xfe41, 0xfe44, 1, 0x300c), (0xfe47, 0xfe47, 1, 0x5b), (0xfe48, 0xfe48, 1, 0x5d),
    (0xfe4d, 0xfe4d, 1, 0x5f), (0xfe4e, 0xfe4e, 1, 0x5f), (0xfe4f, 0xfe4f, 1, 0x5f),
    (0xfe50, 0xfe50, 1, 0x2c), (0xfe51, 0xfe51, 1, 0x3001), (0xfe54, 0xfe54, 1, 0x3b),
    (0xfe55, 0xfe55, 1, 0x3a), (0xfe56, 0xfe56, 1, 0x3f), (0xfe57, 0xfe57, 1, 0x21),
    (0xfe58, 0xfe58, 1, 0x2014), (0xfe59, 0xfe5a, 1, 0x28), (0xfe5b, 0xfe5b, 1, 0x7b),
    (0xfe5c, 0xfe5c, 1, 0x7d), (0xfe5d, 0xfe5e, 1, 0x3014), (0xfe5f, 0xfe5f, 1, 0x23),
    (0xfe60, 0xfe60, 1, 0x26), (0xfe61, 0xfe62, 1, 0x2a), (0xfe63, 0xfe63, 1, 0x2d),
    (0xfe64, 0xfe64, 1, 0x3c), (0xfe65, 0xfe65, 1, 0x3e), (0xfe66, 0xfe66, 1, 0x3d),
    (0xfe68, 0xfe68, 1, 0x5c), (0xfe69, 0xfe6a, 1, 0x24), (0xfe6b, 0xfe6b, 1, 0x40),
    (0xfe80, 0xfe81, 1, 0x621), (0xfe82, 0xfe83, 1, 0x622), (0xfe84, 0xfe85, 1, 0x623),
    (0xfe86, 0xfe87, 1, 0x624), (0xfe88, 0xfe89, 1, 0x625), (0xfe8a, 0xfe8a, 1, 0x626),
    (0xfe8b, 0xfe8b, 1, 0x626), (0xfe8c, 0xfe8d, 1, 0x626), (0xfe8e, 0xfe8f, 1, 0x627),
    (0xfe90, 0xfe90, 1, 0x628), (0xfe91, 0xfe91, 1, 0x628), (0xfe92, 0xfe93, 1, 0x628),
    (0xfe94, 0xfe95, 1, 0x629), (0xfe96, 0xfe96, 1, 0x62a), (0xfe97, 0xfe97, 1, 0x62a),
    (0xfe98, 0xfe99, 1, 0x62a), (0xfe9a, 0xfe9a, 1, 0x62b), (0xfe9b, 0xfe9b, 1, 0x62b),
    (0xfe9c, 0xfe9d, 1, 0x62b), (0xfe9e, 0xfe9e, 1, 0x62c), (0xfe9f, 0xfe9f, 1, 0x62c),
    (0xfea0, 0xfea1, 1, 0x62c), (0xfea2, 0xfea2, 1, 0x62d), (0xfea3, 0xfea3, 1, 0x62d),
    (0xfea4, 0xfea5, 1, 0x62d), (0xfea6, 0xfea6, 1, 0x62e), (0xfea7, 0xfea7, 1, 0x62e),
    (0xfea8, 0xfea9, 1, 0x62e), (0xfeaa, 0xfeab, 1, 0x62f), (0xfeac, 0xfead, 1, 0x630),
    (0xfeae, 0xfeaf, 1, 0x631), (0xfeb0, 0xfeb1, 1, 0x632), (0xfeb2, 0xfeb2, 1, 0x633),
    (0xfeb3, 0xfeb3, 1, 0x633), (0xfeb4, 0xfeb5, 1, 0x633), (0xfeb6, 0xfeb6, 1, 0x634),
    (0xfeb7, 0xfeb7, 1, 0x634), (0xfeb8, 0xfeb9, 1, 0x634), (0xfeba, 0xfeba, 1, 0x635),
    (0xfebb, 0xfebb, 1, 0x635), (0xfebc, 0xfebd, 1, 0x635), (0xfebe, 0xfebe, 1, 0x636),
    (0xfebf, 0xfebf, 1, 0x636), (0xfec0, 0xfec1, 1, 0x636), (0xfec2, 0xfec2, 1, 0x637),
    (0xfec3, 0xfec3, 1, 0x637), (0xfec4, 0xfec5, 1, 0x637), (0xfec6, 0xfec6, 1, 0x638),
    (0xfec7, 0xfec7, 1, 0x638), (0xfec8, 0xfec9, 1, 0x638), (0xfeca, 0xfeca, 1, 0x639),
    (0xfecb, 0xfecb, 1, 0x639), (0xfecc, 0xfecd, 1, 0x639), (0xfece, 0xfece, 1, 0x63a),
    (0xfecf, 0xfecf, 1, 0x63a), (0xfed0, 0xfed0, 1, 0x63a), (0xfed1, 0xfed1, 1, 0x641),
    (0xfed2, 0xfed2, 1, 0x641), (0xfed3, 0xfed3, 1, 0x641), (0xfed4, 0xfed5, 1, 0x641),
    (0xfed6, 0xfed6, 1, 0x642), (0xfed7, 0xfed7, 1, 0x642), (0xfed8, 0xfed9, 1, 0x642),
    (0xfeda, 0xfeda, 1, 0x643), (0xfedb, 0xfedb, 1, 0x643), (0xfedc, 0xfedd, 1, 0x643),
    (0xfede, 0xfede, 1, 0x644), (0xfedf, 0xfedf, 1, 0x644), (0xfee0, 0xfee1, 1, 0x644),
    (0xfee2, 0xfee2, 1, 0x645), (0xfee3, 0xfee3, 1, 0x645), (0xfee4, 0xfee5, 1, 0x645),
    (0xfee6, 0xfee6, 1, 0x646), (0xfee7, 0xfee7, 1, 0x646), (0xfee8, 0xfee9, 1, 0x646),
    (0xfeea, 0xfeea, 1, 0x647), (0xfeeb, 0xfeeb, 1, 0x647), (0xfeec, 0xfeed, 1, 0x647),
    (0xfeee, 0xfeef, 1, 0x648), (0xfef0, 0xfef1, 1, 0x649), (0xfef2, 0xfef2, 1, 0x64a),
    (0xfef3, 0xfef3, 1, 0x64a), (0xfef4, 0xfef4, 1, 0x64a), (0xff01, 0xff20, 1, 0x21),
    (0xff21, 0xff3a, 1, 0x61), (0xff3b, 0xff5e, 1, 0x5b), (0xff5f, 0xff60, 1, 0x2985),
    (0xff61, 0xff61, 1, 0x2e), (0xff62, 0xff63, 1, 0x300c), (0xff64, 0xff64, 1, 0x3001),
    (0xff65, 0xff65, 1, 0x30fb), (0xff66, 0xff66, 1, 0x30f2), (0xff67, 0xff67, 1, 0x30a1),
    (0xff68, 0xff68, 1, 0x30a3), (0xff69, 0xff69, 1, 0x30a5), (0xff6a, 0xff6a, 1, 0x30a7),
    (0xff6b, 0xff6b, 1, 0x30a9), (0xff6c, 0xff6c, 1, 0x30e3), (0xff6d, 0xff6d, 1, 0x30e5),
    (0xff6e, 0xff6e, 1, 0x30e7), (0xff6f, 0xff6f, 1, 0x30c3), (0xff70, 0xff70, 1, 0x30fc),
    (0xff71, 0xff71, 1, 0x30a2), (0xff72, 0xff72, 1, 0x30a4), (0xff73, 0xff73, 1, 0x30a6),
    (0xff74, 0xff74, 1, 0x30a8), (0xff75, 0xff76, 1, 0x30aa), (0xff77, 0xff77, 1, 0x30ad),
    (0xff78, 0xff78, 1, 0x30af), (0xff79, 0xff79, 1, 0x30b1), (0xff7a, 0xff7a, 1, 0x30b3),
    (0xff7b, 0xff7b, 1, 0x30b5), (0xff7c, 0xff7c, 1, 0x30b7), (0xff7d, 0xff7d, 1, 0x30b9),
    (0xff7e, 0xff7e, 1, 0x30bb), (0xff7f, 0xff7f, 1, 0x30bd), (0xff80, 0xff80, 1, 0x30bf),
    (0xff81, 0xff81, 1, 0x30c1), (0xff82, 0xff82, 1, 0x30c4), (0xff83, 0xff83, 1, 0x30c6),
    (0xff84, 0xff84, 1, 0x30c8), (0xff85, 0xff8a, 1, 0x30ca), (0xff8b, 0xff8b, 1, 0x30d2),
    (0xff8c, 0xff8c, 1, 0x30d5), (0xff8d, 0xff8d, 1, 0x30d8), (0xff8e, 0xff8e, 1, 0x30db),
    (0xff8f, 0xff93, 1, 0x30de), (0xff94, 0xff94, 1, 0x30e4), (0xff95, 0xff95, 1, 0x30e6),
    (0xff96, 0xff9b, 1, 0x30e8), (0xff9c, 0xff9c, 1, 0x30ef), (0xff9d, 0xff9d, 1, 0x30f3),
    (0xff9e, 0xff9f, 1, 0x3099), (0xffa1, 0xffa2, 1, 0x1100), (0xffa3, 0xffa3, 1, 0x11aa),
    (0xffa4, 0xffa4, 1, 0x1102), (0xffa5, 0xffa6, 1, 0x11ac), (0xffa7, 0xffa9, 1, 0x1103),
    (0xffaa, 0xffaf, 1, 0x11b0), (0xffb0, 0xffb0, 1, 0x111a), (0xffb1, 0xffb3, 1, 0x1106),
    (0xffb4, 0xffb4, 1, 0x1121), (0xffb5, 0xffbe, 1, 0x1109), (0xffc2, 0xffc7, 1, 0x1161),
    (0xffca, 0xffcf, 1, 0x1167), (0xffd2, 0xffd7, 1, 0x116d), (0xffda, 0xffdc, 1, 0x1173),
    (0xffe0, 0xffe1, 1, 0xa2), (0xffe2, 0xffe2, 1, 0xac), (0xffe4, 0xffe4, 1, 0xa6),
    (0xffe5, 0xffe5, 1, 0xa5), (0xffe6, 0xffe6, 1, 0x20a9), (0xffe8, 0xffe8, 1, 0x2502),
    (0xffe9, 0xffec, 1, 0x2190), (0xffed, 0xffed, 1, 0x25a0), (0xffee, 0xffee, 1, 0x25cb)]

def presentationGroups : Array (Nat × List Nat) := #[
  (0xfb00, [0x66, 0x66]), (0xfb01, [0x66, 0x69]), (0xfb02, [0x66, 0x6c]),
    (0xfb03, [0x66, 0x66, 0x69]), (0xfb04, [0x66, 0x66, 0x6c]), (0xfb05, [0x73, 0x74]),
    (0xfb06, [0x73, 0x74]), (0xfb13, [0x574, 0x576]), (0xfb14, [0x574, 0x565]),
    (0xfb15, [0x574, 0x56b]), (0xfb16, [0x57e, 0x576]), (0xfb17, [0x574, 0x56d]),
    (0xfb1d, [0x5d9, 0x5b4]), (0xfb1f, [0x5f2, 0x5b7]), (0xfb2a, [0x5e9, 0x5c1]),
    (0xfb2b, [0x5e9, 0x5c2]), (0xfb2c, [0x5e9, 0x5bc, 0x5c1]), (0xfb2d, [0x5e9, 0x5bc, 0x5c2]),
    (0xfb2e, [0x5d0, 0x5b7]), (0xfb2f, [0x5d0, 0x5b8]), (0xfb30, [0x5d0, 0x5bc]),
    (0xfb31, [0x5d1, 0x5bc]), (0xfb32, [0x5d2, 0x5bc]), (0xfb33, [0x5d3, 0x5bc]),
    (0xfb34, [0x5d4, 0x5bc]), (0xfb35, [0x5d5, 0x5bc]), (0xfb36, [0x5d6, 0x5bc]),
    (0xfb38, [0x5d8, 0x5bc]), (0xfb39, [0x5d9, 0x5bc]), (0xfb3a, [0x5da, 0x5bc]),
    (0xfb3b, [0x5db, 0x5bc]), (0xfb3c, [0x5dc, 0x5bc]), (0xfb3e, [0x5de, 0x5bc]),
    (0xfb40, [0x5e0, 0x5bc]), (0xfb41, [0x5e1, 0x5bc]), (0xfb43, [0x5e3, 0x5bc]),
    (0xfb44, [0x5e4, 0x5bc]), (0xfb46, [0x5e6, 0x5bc]), (0xfb47, [0x5e7, 0x5bc]),
    (0xfb48, [0x5e8, 0x5bc]), (0xfb49, [0x5e9, 0x5bc]), (0xfb4a, [0x5ea, 0x5bc]),
    (0xfb4b, [0x5d5, 0x5b9]), (0xfb4c, [0x5d1, 0x5bf]), (0xfb4d, [0x5db, 0x5bf]),
    (0xfb4e, [0x5e4, 0x5bf]), (0xfb4f, [0x5d0, 0x5dc]), (0xfbdd, [0x6c7, 0x674]),
    (0xfbea, [0x626, 0x627]), (0xfbeb, [0x626, 0x627]), (0xfbec, [0x626, 0x6d5]),
    (0xfbed, [0x626, 0x6d5]), (0xfbee, [0x626, 0x648]), (0xfbef, [0x626, 0x648]),
    (0xfbf0, [0x626, 0x6c7]), (0xfbf1, [0x626, 0x6c7]), (0xfbf2, [0x626, 0x6c6]),
    (0xfbf3, [0x626, 0x6c6]), (0xfbf4, [0x626, 0x6c8]), (0xfbf5, [0x626, 0x6c8]),
    (0xfbf6, [0x626, 0x6d0]), (0xfbf7, [0x626, 0x6d0]), (0xfbf8, [0x626, 0x6d0]),
    (0xfbf9, [0x626, 0x649]), (0xfbfa, [0x626, 0x649]), (0xfbfb, [0x626, 0x649]),
    (0xfc00, [0x626, 0x62c]), (0xfc01, [0x626, 0x62d]), (0xfc02, [0x626, 0x645]),
    (0xfc03, [0x626, 0x649]), (0xfc04, [0x626, 0x64a]), (0xfc05, [0x628, 0x62c]),
    (0xfc06, [0x628, 0x62d]), (0xfc07, [0x628, 0x62e]), (0xfc08, [0x628, 0x645]),
    (0xfc09, [0x628, 0x649]), (0xfc0a, [0x628, 0x64a]), (0xfc0b, [0x62a, 0x62c]),
    (0xfc0c, [0x62a, 0x62d]), (0xfc0d, [0x62a, 0x62e]), (0xfc0e, [0x62a, 0x645]),
    (0xfc0f, [0x62a, 0x649]), (0xfc10, [0x62a, 0x64a]), (0xfc11, [0x62b, 0x62c]),
    (0xfc12, [0x62b, 0x645]), (0xfc13, [0x62b, 0x649]), (0xfc14, [0x62b, 0x64a]),
    (0xfc15, [0x62c, 0x62d]), (0xfc16, [0x62c, 0x645]), (0xfc17, [0x62d, 0x62c]),
    (0xfc18, [0x62d, 0x645]), (0xfc19, [0x62e, 0x62c]), (0xfc1a, [0x62e, 0x62d]),
    (0xfc1b, [0x62e, 0x645]), (0xfc1c, [0x633, 0x62c]), (0xfc1d, [0x633, 0x62d]),
    (0xfc1e, [0x633, 0x62e]), (0xfc1f, [0x633, 0x645]), (0xfc20, [0x635, 0x62d]),
    (0xfc21, [0x635, 0x645]), (0xfc22, [0x636, 0x62c]), (0xfc23, [0x636, 0x62d]),
    (0xfc24, [0x636, 0x62e]), (0xfc25, [0x636, 0x645]), (0xfc26, [0x637, 0x62d]),
    (0xfc27, [0x637, 0x645]), (0xfc28, [0x638, 0x645]), (0xfc29, [0x639, 0x62c]),
    (0xfc2a, [0x639, 0x645]), (0xfc2b, [0x63a, 0x62c]), (0xfc2c, [0x63a, 0x645]),
    (0xfc2d, [0x641, 0x62c]), (0xfc2e, [0x641, 0x62d]), (0xfc2f, [0x641, 0x62e]),
    (0xfc30, [0x641, 0x645]), (0xfc31, [0x641, 0x649]), (0xfc32, [0x641, 0x64a]),
    (0xfc33, [0x642, 0x62d]), (0xfc34, [0x642, 0x645]), (0xfc35, [0x642, 0x649]),
    (0xfc36, [0x642, 0x64a]), (0xfc37, [0x643, 0x627]), (0xfc38, [0x643, 0x62c]),
    (0xfc39, [0x643, 0x62d]), (0xfc3a, [0x643, 0x62e]), (0xfc3b, [0x643, 0x644]),
    (0xfc3c, [0x643, 0x645]), (0xfc3d, [0x643, 0x649]), (0xfc3e, [0x643, 0x64a]),
    (0xfc3f, [0x644, 0x62c]), (0xfc40, [0x644, 0x62d]), (0xfc41, [0x644, 0x62e]),
    (0xfc42, [0x644, 0x645]), (0xfc43, [0x644, 0x649]), (0xfc44, [0x644, 0x64a]),
    (0xfc45, [0x645, 0x62c]), (0xfc46, [0x645, 0x62d]), (0xfc47, [0x645, 0x62e]),
    (0xfc48, [0x645, 0x645]), (0xfc49, [0x645, 0x649]), (0xfc4a, [0x645, 0x64a]),
    (0xfc4b, [0x646, 0x62c]), (0xfc4c, [0x646, 0x62d]), (0xfc4d, [0x646, 0x62e]),
    (0xfc4e, [0x646, 0x645]), (0xfc4f, [0x646, 0x649]), (0xfc50, [0x646, 0x64a]),
    (0xfc51, [0x647, 0x62c]), (0xfc52, [0x647, 0x645]), (0xfc53, [0x647, 0x649]),
    (0xfc54, [0x647, 0x64a]), (0xfc55, [0x64a, 0x62c]), (0xfc56, [0x64a, 0x62d]),
    (0xfc57, [0x64a, 0x62e]), (0xfc58, [0x64a, 0x645]), (0xfc59, [0x64a, 0x649]),
    (0xfc5a, [0x64a, 0x64a]), (0xfc5b, [0x630, 0x670]), (0xfc5c, [0x631, 0x670]),
    (0xfc5d, [0x649, 0x670]), (0xfc5e, [0x20, 0x64c, 0x651]), (0xfc5f, [0x20, 0x64d, 0x651]),
    (0xfc60, [0x20, 0x64e, 0x651]), (0xfc61, [0x20, 0x64f, 0x651]), (0xfc62, [0x20, 0x650, 0x651]),
    (0xfc63, [0x20, 0x651, 0x670]), (0xfc64, [0x626, 0x631]), (0xfc65, [0x626, 0x632]),
    (0xfc66, [0x626, 0x645]), (0xfc67, [0x626, 0x646]), (0xfc68, [0x626, 0x649]),
    (0xfc69, [0x626, 0x64a]), (0xfc6a, [0x628, 0x631]), (0xfc6b, [0x628, 0x632]),
    (0xfc6c, [0x628, 0x645]), (0xfc6d, [0x628, 0x646]), (0xfc6e, [0x628, 0x649]),
    (0xfc6f, [0x628, 0x64a]), (0xfc70, [0x62a, 0x631]), (0xfc71, [0x62a, 0x632]),
    (0xfc72, [0x62a, 0x645]), (0xfc73, [0x62a, 0x646]), (0xfc74, [0x62a, 0x649]),
    (0xfc75, [0x62a, 0x64a]), (0xfc76, [0x62b, 0x631]), (0xfc77, [0x62b, 0x632]),
    (0xfc78, [0x62b, 0x645]), (0xfc79, [0x62b, 0x646]), (0xfc7a, [0x62b, 0x649]),
    (0xfc7b, [0x62b, 0x64a]), (0xfc7c, [0x641, 0x649]), (0xfc7d, [0x641, 0x64a]),
    (0xfc7e, [0x642, 0x649]), (0xfc7f, [0x642, 0x64a]), (0xfc80, [0x643, 0x627]),
    (0xfc81, [0x643, 0x644]), (0xfc82, [0x643, 0x645]), (0xfc83, [0x643, 0x649]),
    (0xfc84, [0x643, 0x64a]), (0xfc85, [0x644, 0x645]), (0xfc86, [0x644, 0x649]),
    (0xfc87, [0x644, 0x64a]), (0xfc88, [0x645, 0x627]), (0xfc89, [0x645, 0x645]),
    (0xfc8a, [0x646, 0x631]), (0xfc8b, [0x646, 0x632]), (0xfc8c, [0x646, 0x645]),
    (0xfc8d, [0x646, 0x646]), (0xfc8e, [0x646, 0x649]), (0xfc8f, [0x646, 0x64a]),
    (0xfc90, [0x649, 0x670]), (0xfc91, [0x64a, 0x631]), (0xfc92, [0x64a, 0x632]),
    (0xfc93, [0x64a, 0x645]), (0xfc94, [0x64a, 0x646]), (0xfc95, [0x64a, 0x649]),
    (0xfc96, [0x64a, 0x64a]), (0xfc97, [0x626, 0x62c]), (0xfc98, [0x626, 0x62d]),
    (0xfc99, [0x626, 0x62e]), (0xfc9a, [0x626, 0x645]), (0xfc9b, [0x626, 0x647]),
    (0xfc9c, [0x628, 0x62c]), (0xfc9d, [0x628, 0x62d]), (0xfc9e, [0x628, 0x62e]),
    (0xfc9f, [0x628, 0x645]), (0xfca0, [0x628, 0x647]), (0xfca1, [0x62a, 0x62c]),
    (0xfca2, [0x62a, 0x62d]), (0xfca3, [0x62a, 0x62e]), (0xfca4, [0x62a, 0x645]),
    (0xfca5, [0x62a, 0x647]), (0xfca6, [0x62b, 0x645]), (0xfca7, [0x62c, 0x62d]),
    (0xfca8, [0x62c, 0x645]), (0xfca9, [0x62d, 0x62c]), (0xfcaa, [0x62d, 0x645]),
    (0xfcab, [0x62e, 0x62c]), (0xfcac, [0x62e, 0x645]), (0xfcad, [0x633, 0x62c]),
    (0xfcae, [0x633, 0x62d]), (0xfcaf, [0x633, 0x62e]), (0xfcb0, [0x633, 0x645]),
    (0xfcb1, [0x635, 0x62d]), (0xfcb2, [0x635, 0x62e]), (0xfcb3, [0x635, 0x645]),
    (0xfcb4, [0x636, 0x62c]), (0xfcb5, [0x636, 0x62d]), (0xfcb6, [0x636, 0x62e]),
    (0xfcb7, [0x636, 0x645]), (0xfcb8, [0x637, 0x62d]), (0xfcb9, [0x638, 0x645]),
    (0xfcba, [0x639, 0x62c]), (0xfcbb, [0x639, 0x645]), (0xfcbc, [0x63a, 0x62c]),
    (0xfcbd, [0x63a, 0x645]), (0xfcbe, [0x641, 0x62c]), (0xfcbf, [0x641, 0x62d]),
    (0xfcc0, [0x641, 0x62e]), (0xfcc1, [0x641, 0x645]), (0xfcc2, [0x642, 0x62d]),
    (0xfcc3, [0x642, 0x645]), (0xfcc4, [0x643, 0x62c]), (0xfcc5, [0x643, 0x62d]),
    (0xfcc6, [0x643, 0x62e]), (0xfcc7, [0x643, 0x644]), (0xfcc8, [0x643, 0x645]),
    (0xfcc9, [0x644, 0x62c]), (0xfcca, [0x644, 0x62d]), (0xfccb, [0x644, 0x62e]),
    (0xfccc, [0x644, 0x645]), (0xfccd, [0x644, 0x647]), (0xfcce, [0x645, 0x62c]),
    (0xfccf, [0x645, 0x62d]), (0xfcd0, [0x645, 0x62e]), (0xfcd1, [0x645, 0x645]),
    (0xfcd2, [0x646, 0x62c]), (0xfcd3, [0x646, 0x62d]), (0xfcd4, [0x646, 0x62e]),
    (0xfcd5, [0x646, 0x645]), (0xfcd6, [0x646, 0x647]), (0xfcd7, [0x647, 0x62c]),
    (0xfcd8, [0x647, 0x645]), (0xfcd9, [0x647, 0x670]), (0xfcda, [0x64a, 0x62c]),
    (0xfcdb, [0x64a, 0x62d]), (0xfcdc, [0x64a, 0x62e]), (0xfcdd, [0x64a, 0x645]),
    (0xfcde, [0x64a, 0x647]), (0xfcdf, [0x626, 0x645]), (0xfce0, [0x626, 0x647]),
    (0xfce1, [0x628, 0x645]), (0xfce2, [0x628, 0x647]), (0xfce3, [0x62a, 0x645]),
    (0xfce4, [0x62a, 0x647]), (0xfce5, [0x62b, 0x645]), (0xfce6, [0x62b, 0x647]),
    (0xfce7, [0x633, 0x645]), (0xfce8, [0x633, 0x647]), (0xfce9, [0x634, 0x645]),
    (0xfcea, [0x634, 0x647]), (0xfceb, [0x643, 0x644]), (0xfcec, [0x643, 0x645]),
    (0xfced, [0x644, 0x645]), (0xfcee, [0x646, 0x645]), (0xfcef, [0x646, 0x647]),
    (0xfcf0, [0x64a, 0x645]), (0xfcf1, [0x64a, 0x647]), (0xfcf2, [0x640, 0x64e, 0x651]),
    (0xfcf3, [0x640, 0x64f, 0x651]), (0xfcf4, [0x640, 0x650, 0x651]), (0xfcf5, [0x637, 0x649]),
    (0xfcf6, [0x637, 0x64a]), (0xfcf7, [0x639, 0x649]), (0xfcf8, [0x639, 0x64a]),
    (0xfcf9, [0x63a, 0x649]), (0xfcfa, [0x63a, 0x64a]), (0xfcfb, [0x633, 0x649]),
    (0xfcfc, [0x633, 0x64a]), (0xfcfd, [0x634, 0x649]), (0xfcfe, [0x634, 0x64a]),
    (0xfcff, [0x62d, 0x649]), (0xfd00, [0x62d, 0x64a]), (0xfd01, [0x62c, 0x649]),
    (0xfd02, [0x62c, 0x64a]), (0xfd03, [0x62e, 0x649]), (0xfd04, [0x62e, 0x64a]),
    (0xfd05, [0x635, 0x649]), (0xfd06, [0x635, 0x64a]), (0xfd07, [0x636, 0x649]),
    (0xfd08, [0x636, 0x64a]), (0xfd09, [0x634, 0x62c]), (0xfd0a, [0x634, 0x62d]),
    (0xfd0b, [0x634, 0x62e]), (0xfd0c, [0x634, 0x645]), (0xfd0d, [0x634, 0x631]),
    (0xfd0e, [0x633, 0x631]), (0xfd0f, [0x635, 0x631]), (0xfd10, [0x636, 0x631]),
    (0xfd11, [0x637, 0x649]), (0xfd12, [0x637, 0x64a]), (0xfd13, [0x639, 0x649]),
    (0xfd14, [0x639, 0x64a]), (0xfd15, [0x63a, 0x649]), (0xfd16, [0x63a, 0x64a]),
    (0xfd17, [0x633, 0x649]), (0xfd18, [0x633, 0x64a]), (0xfd19, [0x634, 0x649]),
    (0xfd1a, [0x634, 0x64a]), (0xfd1b, [0x62d, 0x649]), (0xfd1c, [0x62d, 0x64a]),
    (0xfd1d, [0x62c, 0x649]), (0xfd1e, [0x62c, 0x64a]), (0xfd1f, [0x62e, 0x649]),
    (0xfd20, [0x62e, 0x64a]), (0xfd21, [0x635, 0x649]), (0xfd22, [0x635, 0x64a]),
    (0xfd23, [0x636, 0x649]), (0xfd24, [0x636, 0x64a]), (0xfd25, [0x634, 0x62c]),
    (0xfd26, [0x634, 0x62d]), (0xfd27, [0x634, 0x62e]), (0xfd28, [0x634, 0x645]),
    (0xfd29, [0x634, 0x631]), (0xfd2a, [0x633, 0x631]), (0xfd2b, [0x635, 0x631]),
    (0xfd2c, [0x636, 0x631]), (0xfd2d, [0x634, 0x62c]), (0xfd2e, [0x634, 0x62d]),
    (0xfd2f, [0x634, 0x62e]), (0xfd30, [0x634, 0x645]), (0xfd31, [0x633, 0x647]),
    (0xfd32, [0x634, 0x647]), (0xfd33, [0x637, 0x645]), (0xfd34, [0x633, 0x62c]),
    (0xfd35, [0x633, 0x62d]), (0xfd36, [0x633, 0x62e]), (0xfd37, [0x634, 0x62c]),
    (0xfd38, [0x634, 0x62d]), (0xfd39, [0x634, 0x62e]), (0xfd3a, [0x637, 0x645]),
    (0xfd3b, [0x638, 0x645]), (0xfd3c, [0x627, 0x64b]), (0xfd3d, [0x627, 0x64b]),
    (0xfd50, [0x62a, 0x62c, 0x645]), (0xfd51, [0x62a, 0x62d, 0x62c]),
    (0xfd52, [0x62a, 0x62d, 0x62c]), (0xfd53, [0x62a, 0x62d, 0x645]),
    (0xfd54, [0x62a, 0x62e, 0x645]), (0xfd55, [0x62a, 0x645, 0x62c]),
    (0xfd56, [0x62a, 0x645, 0x62d]), (0xfd57, [0x62a, 0x645, 0x62e]),
    (0xfd58, [0x62c, 0x645, 0x62d]), (0xfd59, [0x62c, 0x645, 0x62d]),
    (0xfd5a, [0x62d, 0x645, 0x64a]), (0xfd5b, [0x62d, 0x645, 0x649]),
    (0xfd5c, [0x633, 0x62d, 0x62c]), (0xfd5d, [0x633, 0x62c, 0x62d]),
    (0xfd5e, [0x633, 0x62c, 0x649]), (0xfd5f, [0x633, 0x645, 0x62d]),
    (0xfd60, [0x633, 0x645, 0x62d]), (0xfd61, [0x633, 0x645, 0x62c]),
    (0xfd62, [0x633, 0x645, 0x645]), (0xfd63, [0x633, 0x645, 0x645]),
    (0xfd64, [0x635, 0x62d, 0x62d]), (0xfd65, [0x635, 0x62d, 0x62d]),
    (0xfd66, [0x635, 0x645, 0x645]), (0xfd67, [0x634, 0x62d, 0x645]),
    (0xfd68, [0x634, 0x62d, 0x645]), (0xfd69, [0x634, 0x62c, 0x64a]),
    (0xfd6a, [0x634, 0x645, 0x62e]), (0xfd6b, [0x634, 0x645, 0x62e]),
    (0xfd6c, [0x634, 0x645, 0x645]), (0xfd6d, [0x634, 0x645, 0x645]),
    (0xfd6e, [0x636, 0x62d, 0x649]), (0xfd6f, [0x636, 0x62e, 0x645]),
    (0xfd70, [0x636, 0x62e, 0x645]), (0xfd71, [0x637, 0x645, 0x62d]),
    (0xfd72, [0x637, 0x645, 0x62d]), (0xfd73, [0x637, 0x645, 0x645]),
    (0xfd74, [0x637, 0x645, 0x64a]), (0xfd75, [0x639, 0x62c, 0x645]),
    (0xfd76, [0x639, 0x645, 0x645]), (0xfd77, [0x639, 0x645, 0x645]),
    (0xfd78, [0x639, 0x645, 0x649]), (0xfd79, [0x63a, 0x645, 0x645]),
    (0xfd7a, [0x63a, 0x645, 0x64a]), (0xfd7b, [0x63a, 0x645, 0x649]),
    (0xfd7c, [0x641, 0x62e, 0x645]), (0xfd7d, [0x641, 0x62e, 0x645]),
    (0xfd7e, [0x642, 0x645, 0x62d]), (0xfd7f, [0x642, 0x645, 0x645]),
    (0xfd80, [0x644, 0x62d, 0x645]), (0xfd81, [0x644, 0x62d, 0x64a]),
    (0xfd82, [0x644, 0x62d, 0x649]), (0xfd83, [0x644, 0x62c, 0x62c]),
    (0xfd84, [0x644, 0x62c, 0x62c]), (0xfd85, [0x644, 0x62e, 0x645]),
    (0xfd86, [0x644, 0x62e, 0x645]), (0xfd87, [0x644, 0x645, 0x62d]),
    (0xfd88, [0x644, 0x645, 0x62d]), (0xfd89, [0x645, 0x62d, 0x62c]),
    (0xfd8a, [0x645, 0x62d, 0x645]), (0xfd8b, [0x645, 0x62d, 0x64a]),
    (0xfd8c, [0x645, 0x62c, 0x62d]), (0xfd8d, [0x645, 0x62c, 0x645]),
    (0xfd8e, [0x645, 0x62e, 0x62c]), (0xfd8f, [0x645, 0x62e, 0x645]),
    (0xfd92, [0x645, 0x62c, 0x62e]), (0xfd93, [0x647, 0x645, 0x62c]),
    (0xfd94, [0x647, 0x645, 0x645]), (0xfd95, [0x646, 0x62d, 0x645]),
    (0xfd96, [0x646, 0x62d, 0x649]), (0xfd97, [0x646, 0x62c, 0x645]),
    (0xfd98, [0x646, 0x62c, 0x645]), (0xfd99, [0x646, 0x62c, 0x649]),
    (0xfd9a, [0x646, 0x645, 0x64a]), (0xfd9b, [0x646, 0x645, 0x649]),
    (0xfd9c, [0x64a, 0x645, 0x645]), (0xfd9d, [0x64a, 0x645, 0x645]),
    (0xfd9e, [0x628, 0x62e, 0x64a]), (0xfd9f, [0x62a, 0x62c, 0x64a]),
    (0xfda0, [0x62a, 0x62c, 0x649]), (0xfda1, [0x62a, 0x62e, 0x64a]),
    (0xfda2, [0x62a, 0x62e, 0x649]), (0xfda3, [0x62a, 0x645, 0x64a]),
    (0xfda4, [0x62a, 0x645, 0x649]), (0xfda5, [0x62c, 0x645, 0x64a]),
    (0xfda6, [0x62c, 0x62d, 0x649]), (0xfda7, [0x62c, 0x645, 0x649]),
    (0xfda8, [0x633, 0x62e, 0x649]), (0xfda9, [0x635, 0x62d, 0x64a]),
    (0xfdaa, [0x634, 0x62d, 0x64a]), (0xfdab, [0x636, 0x62d, 0x64a]),
    (0xfdac, [0x644, 0x62c, 0x64a]), (0xfdad, [0x644, 0x645, 0x64a]),
    (0xfdae, [0x64a, 0x62d, 0x64a]), (0xfdaf, [0x64a, 0x62c, 0x64a]),
    (0xfdb0, [0x64a, 0x645, 0x64a]), (0xfdb1, [0x645, 0x645, 0x64a]),
    (0xfdb2, [0x642, 0x645, 0x64a]), (0xfdb3, [0x646, 0x62d, 0x64a]),
    (0xfdb4, [0x642, 0x645, 0x62d]), (0xfdb5, [0x644, 0x62d, 0x645]),
    (0xfdb6, [0x639, 0x645, 0x64a]), (0xfdb7, [0x643, 0x645, 0x64a]),
    (0xfdb8, [0x646, 0x62c, 0x62d]), (0xfdb9, [0x645, 0x62e, 0x64a]),
    (0xfdba, [0x644, 0x62c, 0x645]), (0xfdbb, [0x643, 0x645, 0x645]),
    (0xfdbc, [0x644, 0x62c, 0x645]), (0xfdbd, [0x646, 0x62c, 0x62d]),
    (0xfdbe, [0x62c, 0x62d, 0x64a]), (0xfdbf, [0x62d, 0x62c, 0x64a]),
    (0xfdc0, [0x645, 0x62c, 0x64a]), (0xfdc1, [0x641, 0x645, 0x64a]),
    (0xfdc2, [0x628, 0x62d, 0x64a]), (0xfdc3, [0x643, 0x645, 0x645]),
    (0xfdc4, [0x639, 0x62c, 0x645]), (0xfdc5, [0x635, 0x645, 0x645]),
    (0xfdc6, [0x633, 0x62e, 0x64a]), (0xfdc7, [0x646, 0x62c, 0x64a]),
    (0xfdf0, [0x635, 0x644, 0x6d2]), (0xfdf1, [0x642, 0x644, 0x6d2]),
    (0xfdf2, [0x627, 0x644, 0x644, 0x647]), (0xfdf3, [0x627, 0x643, 0x628, 0x631]),
    (0xfdf4, [0x645, 0x62d, 0x645, 0x62f]), (0xfdf5, [0x635, 0x644, 0x639, 0x645]),
    (0xfdf6, [0x631, 0x633, 0x648, 0x644]), (0xfdf7, [0x639, 0x644, 0x64a, 0x647]),
    (0xfdf8, [0x648, 0x633, 0x644, 0x645]), (0xfdf9, [0x635, 0x644, 0x649]),
    (0xfdfa, [0x635, 0x644, 0x649, 0x20, 0x627, 0x644, 0x644, 0x647, 0x20, 0x639, 0x644, 0x64a, 0x647, 0x20,
      0x648, 0x633, 0x644, 0x645]),
    (0xfdfb, [0x62c, 0x644, 0x20, 0x62c, 0x644, 0x627, 0x644, 0x647]),
    (0xfdfc, [0x631, 0x6cc, 0x627, 0x644]), (0xfe49, [0x20, 0x305]), (0xfe4a, [0x20, 0x305]),
    (0xfe4b, [0x20, 0x305]), (0xfe4c, [0x20, 0x305]), (0xfe70, [0x20, 0x64b]),
    (0xfe71, [0x640, 0x64b]), (0xfe72, [0x20, 0x64c]), (0xfe74, [0x20, 0x64d]),
    (0xfe76, [0x20, 0x64e]), (0xfe77, [0x640, 0x64e]), (0xfe78, [0x20, 0x64f]),
    (0xfe79, [0x640, 0x64f]), (0xfe7a, [0x20, 0x650]), (0xfe7b, [0x640, 0x650]),
    (0xfe7c, [0x20, 0x651]), (0xfe7d, [0x640, 0x651]), (0xfe7e, [0x20, 0x652]),
    (0xfe7f, [0x640, 0x652]), (0xfef5, [0x644, 0x622]), (0xfef6, [0x644, 0x622]),
    (0xfef7, [0x644, 0x623]), (0xfef8, [0x644, 0x623]), (0xfef9, [0x644, 0x625]),
    (0xfefa, [0x644, 0x625]), (0xfefb, [0x644, 0x627]), (0xfefc, [0x644, 0x627]),
    (0xffe3, [0x20, 0x304])]

end QueryWatch.HostName.Forms
