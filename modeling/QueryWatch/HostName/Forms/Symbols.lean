namespace QueryWatch.HostName.Forms

def symbolRuns : Array (Nat × Nat × Nat × Nat) := #[
  (0x10400, 0x10427, 1, 0x10428), (0x104b0, 0x104d3, 1, 0x104d8), (0x10570, 0x1057a, 1, 0x10597),
    (0x1057c, 0x1058a, 1, 0x105a3), (0x1058c, 0x10592, 1, 0x105b3), (0x10594, 0x10595, 1, 0x105bb),
    (0x10781, 0x10782, 1, 0x2d0), (0x10783, 0x10783, 1, 0xe6), (0x10784, 0x10784, 1, 0x299),
    (0x10785, 0x10785, 1, 0x253), (0x10787, 0x10787, 1, 0x2a3), (0x10788, 0x10788, 1, 0xab66),
    (0x10789, 0x10789, 1, 0x2a5), (0x1078a, 0x1078a, 1, 0x2a4), (0x1078b, 0x1078c, 1, 0x256),
    (0x1078d, 0x1078d, 1, 0x1d91), (0x1078e, 0x1078e, 1, 0x258), (0x1078f, 0x1078f, 1, 0x25e),
    (0x10790, 0x10790, 1, 0x2a9), (0x10791, 0x10791, 1, 0x264), (0x10792, 0x10792, 1, 0x262),
    (0x10793, 0x10793, 1, 0x260), (0x10794, 0x10794, 1, 0x29b), (0x10795, 0x10795, 1, 0x127),
    (0x10796, 0x10796, 1, 0x29c), (0x10797, 0x10797, 1, 0x267), (0x10798, 0x10798, 1, 0x284),
    (0x10799, 0x1079a, 1, 0x2aa), (0x1079b, 0x1079b, 1, 0x26c), (0x1079c, 0x1079c, 1, 0x1df04),
    (0x1079d, 0x1079d, 1, 0xa78e), (0x1079e, 0x1079e, 1, 0x26e), (0x1079f, 0x1079f, 1, 0x1df05),
    (0x107a0, 0x107a0, 1, 0x28e), (0x107a1, 0x107a1, 1, 0x1df06), (0x107a2, 0x107a2, 1, 0xf8),
    (0x107a3, 0x107a4, 1, 0x276), (0x107a5, 0x107a5, 1, 0x71), (0x107a6, 0x107a6, 1, 0x27a),
    (0x107a7, 0x107a7, 1, 0x1df08), (0x107a8, 0x107a9, 1, 0x27d), (0x107aa, 0x107aa, 1, 0x280),
    (0x107ab, 0x107ab, 1, 0x2a8), (0x107ac, 0x107ac, 1, 0x2a6), (0x107ad, 0x107ad, 1, 0xab67),
    (0x107ae, 0x107ae, 1, 0x2a7), (0x107af, 0x107af, 1, 0x288), (0x107b0, 0x107b0, 1, 0x2c71),
    (0x107b2, 0x107b2, 1, 0x28f), (0x107b3, 0x107b4, 1, 0x2a1), (0x107b5, 0x107b5, 1, 0x298),
    (0x107b6, 0x107b8, 1, 0x1c0), (0x107b9, 0x107b9, 1, 0x1df0a), (0x107ba, 0x107ba, 1, 0x1df1e),
    (0x10c80, 0x10cb2, 1, 0x10cc0), (0x10d50, 0x10d65, 1, 0x10d70), (0x118a0, 0x118bf, 1, 0x118c0),
    (0x16e40, 0x16e5f, 1, 0x16e60), (0x16ea0, 0x16eb8, 1, 0x16ebb), (0x1ccd6, 0x1ccef, 1, 0x61),
    (0x1ccf0, 0x1ccf9, 1, 0x30), (0x1d400, 0x1d419, 1, 0x61), (0x1d41a, 0x1d433, 1, 0x61),
    (0x1d434, 0x1d44d, 1, 0x61), (0x1d44e, 0x1d454, 1, 0x61), (0x1d456, 0x1d467, 1, 0x69),
    (0x1d468, 0x1d481, 1, 0x61), (0x1d482, 0x1d49b, 1, 0x61), (0x1d49c, 0x1d49e, 2, 0x61),
    (0x1d49f, 0x1d49f, 1, 0x64), (0x1d4a2, 0x1d4a2, 1, 0x67), (0x1d4a5, 0x1d4a6, 1, 0x6a),
    (0x1d4a9, 0x1d4ac, 1, 0x6e), (0x1d4ae, 0x1d4b5, 1, 0x73), (0x1d4b6, 0x1d4b9, 1, 0x61),
    (0x1d4bb, 0x1d4bd, 2, 0x66), (0x1d4be, 0x1d4c3, 1, 0x69), (0x1d4c5, 0x1d4cf, 1, 0x70),
    (0x1d4d0, 0x1d4e9, 1, 0x61), (0x1d4ea, 0x1d503, 1, 0x61), (0x1d504, 0x1d505, 1, 0x61),
    (0x1d507, 0x1d50a, 1, 0x64), (0x1d50d, 0x1d514, 1, 0x6a), (0x1d516, 0x1d51c, 1, 0x73),
    (0x1d51e, 0x1d537, 1, 0x61), (0x1d538, 0x1d539, 1, 0x61), (0x1d53b, 0x1d53e, 1, 0x64),
    (0x1d540, 0x1d544, 1, 0x69), (0x1d546, 0x1d546, 1, 0x6f), (0x1d54a, 0x1d550, 1, 0x73),
    (0x1d552, 0x1d56b, 1, 0x61), (0x1d56c, 0x1d585, 1, 0x61), (0x1d586, 0x1d59f, 1, 0x61),
    (0x1d5a0, 0x1d5b9, 1, 0x61), (0x1d5ba, 0x1d5d3, 1, 0x61), (0x1d5d4, 0x1d5ed, 1, 0x61),
    (0x1d5ee, 0x1d607, 1, 0x61), (0x1d608, 0x1d621, 1, 0x61), (0x1d622, 0x1d63b, 1, 0x61),
    (0x1d63c, 0x1d655, 1, 0x61), (0x1d656, 0x1d66f, 1, 0x61), (0x1d670, 0x1d689, 1, 0x61),
    (0x1d68a, 0x1d6a3, 1, 0x61), (0x1d6a4, 0x1d6a4, 1, 0x131), (0x1d6a5, 0x1d6a5, 1, 0x237),
    (0x1d6a8, 0x1d6b8, 1, 0x3b1), (0x1d6b9, 0x1d6b9, 1, 0x3b8), (0x1d6ba, 0x1d6c0, 1, 0x3c3),
    (0x1d6c1, 0x1d6c1, 1, 0x2207), (0x1d6c2, 0x1d6d2, 1, 0x3b1), (0x1d6d3, 0x1d6d3, 1, 0x3c3),
    (0x1d6d4, 0x1d6da, 1, 0x3c3), (0x1d6db, 0x1d6db, 1, 0x2202), (0x1d6dc, 0x1d6dc, 1, 0x3b5),
    (0x1d6dd, 0x1d6dd, 1, 0x3b8), (0x1d6de, 0x1d6de, 1, 0x3ba), (0x1d6df, 0x1d6df, 1, 0x3c6),
    (0x1d6e0, 0x1d6e0, 1, 0x3c1), (0x1d6e1, 0x1d6e1, 1, 0x3c0), (0x1d6e2, 0x1d6f2, 1, 0x3b1),
    (0x1d6f3, 0x1d6f3, 1, 0x3b8), (0x1d6f4, 0x1d6fa, 1, 0x3c3), (0x1d6fb, 0x1d6fb, 1, 0x2207),
    (0x1d6fc, 0x1d70c, 1, 0x3b1), (0x1d70d, 0x1d70d, 1, 0x3c3), (0x1d70e, 0x1d714, 1, 0x3c3),
    (0x1d715, 0x1d715, 1, 0x2202), (0x1d716, 0x1d716, 1, 0x3b5), (0x1d717, 0x1d717, 1, 0x3b8),
    (0x1d718, 0x1d718, 1, 0x3ba), (0x1d719, 0x1d719, 1, 0x3c6), (0x1d71a, 0x1d71a, 1, 0x3c1),
    (0x1d71b, 0x1d71b, 1, 0x3c0), (0x1d71c, 0x1d72c, 1, 0x3b1), (0x1d72d, 0x1d72d, 1, 0x3b8),
    (0x1d72e, 0x1d734, 1, 0x3c3), (0x1d735, 0x1d735, 1, 0x2207), (0x1d736, 0x1d746, 1, 0x3b1),
    (0x1d747, 0x1d747, 1, 0x3c3), (0x1d748, 0x1d74e, 1, 0x3c3), (0x1d74f, 0x1d74f, 1, 0x2202),
    (0x1d750, 0x1d750, 1, 0x3b5), (0x1d751, 0x1d751, 1, 0x3b8), (0x1d752, 0x1d752, 1, 0x3ba),
    (0x1d753, 0x1d753, 1, 0x3c6), (0x1d754, 0x1d754, 1, 0x3c1), (0x1d755, 0x1d755, 1, 0x3c0),
    (0x1d756, 0x1d766, 1, 0x3b1), (0x1d767, 0x1d767, 1, 0x3b8), (0x1d768, 0x1d76e, 1, 0x3c3),
    (0x1d76f, 0x1d76f, 1, 0x2207), (0x1d770, 0x1d780, 1, 0x3b1), (0x1d781, 0x1d781, 1, 0x3c3),
    (0x1d782, 0x1d788, 1, 0x3c3), (0x1d789, 0x1d789, 1, 0x2202), (0x1d78a, 0x1d78a, 1, 0x3b5),
    (0x1d78b, 0x1d78b, 1, 0x3b8), (0x1d78c, 0x1d78c, 1, 0x3ba), (0x1d78d, 0x1d78d, 1, 0x3c6),
    (0x1d78e, 0x1d78e, 1, 0x3c1), (0x1d78f, 0x1d78f, 1, 0x3c0), (0x1d790, 0x1d7a0, 1, 0x3b1),
    (0x1d7a1, 0x1d7a1, 1, 0x3b8), (0x1d7a2, 0x1d7a8, 1, 0x3c3), (0x1d7a9, 0x1d7a9, 1, 0x2207),
    (0x1d7aa, 0x1d7ba, 1, 0x3b1), (0x1d7bb, 0x1d7bb, 1, 0x3c3), (0x1d7bc, 0x1d7c2, 1, 0x3c3),
    (0x1d7c3, 0x1d7c3, 1, 0x2202), (0x1d7c4, 0x1d7c4, 1, 0x3b5), (0x1d7c5, 0x1d7c5, 1, 0x3b8),
    (0x1d7c6, 0x1d7c6, 1, 0x3ba), (0x1d7c7, 0x1d7c7, 1, 0x3c6), (0x1d7c8, 0x1d7c8, 1, 0x3c1),
    (0x1d7c9, 0x1d7c9, 1, 0x3c0), (0x1d7ca, 0x1d7ca, 1, 0x3dd), (0x1d7cb, 0x1d7cb, 1, 0x3dd),
    (0x1d7ce, 0x1d7d7, 1, 0x30), (0x1d7d8, 0x1d7e1, 1, 0x30), (0x1d7e2, 0x1d7eb, 1, 0x30),
    (0x1d7ec, 0x1d7f5, 1, 0x30), (0x1d7f6, 0x1d7ff, 1, 0x30), (0x1e030, 0x1e038, 1, 0x430),
    (0x1e039, 0x1e03b, 1, 0x43a), (0x1e03c, 0x1e046, 1, 0x43e), (0x1e047, 0x1e047, 1, 0x44b),
    (0x1e048, 0x1e049, 1, 0x44d), (0x1e04a, 0x1e04a, 1, 0xa689), (0x1e04b, 0x1e04b, 1, 0x4d9),
    (0x1e04c, 0x1e04c, 1, 0x456), (0x1e04d, 0x1e04d, 1, 0x458), (0x1e04e, 0x1e04e, 1, 0x4e9),
    (0x1e04f, 0x1e04f, 1, 0x4af), (0x1e050, 0x1e050, 1, 0x4cf), (0x1e051, 0x1e059, 1, 0x430),
    (0x1e05a, 0x1e05b, 1, 0x43a), (0x1e05c, 0x1e05d, 1, 0x43e), (0x1e05e, 0x1e05e, 1, 0x441),
    (0x1e05f, 0x1e064, 1, 0x443), (0x1e065, 0x1e066, 1, 0x44a), (0x1e067, 0x1e067, 1, 0x491),
    (0x1e068, 0x1e068, 1, 0x456), (0x1e069, 0x1e069, 1, 0x455), (0x1e06a, 0x1e06a, 1, 0x45f),
    (0x1e06b, 0x1e06b, 1, 0x4ab), (0x1e06c, 0x1e06c, 1, 0xa651), (0x1e06d, 0x1e06d, 1, 0x4b1),
    (0x1e900, 0x1e921, 1, 0x1e922), (0x1ee00, 0x1ee01, 1, 0x627), (0x1ee02, 0x1ee02, 1, 0x62c),
    (0x1ee03, 0x1ee03, 1, 0x62f), (0x1ee05, 0x1ee05, 1, 0x648), (0x1ee06, 0x1ee06, 1, 0x632),
    (0x1ee07, 0x1ee07, 1, 0x62d), (0x1ee08, 0x1ee08, 1, 0x637), (0x1ee09, 0x1ee09, 1, 0x64a),
    (0x1ee0a, 0x1ee0d, 1, 0x643), (0x1ee0e, 0x1ee0e, 1, 0x633), (0x1ee0f, 0x1ee0f, 1, 0x639),
    (0x1ee10, 0x1ee10, 1, 0x641), (0x1ee11, 0x1ee11, 1, 0x635), (0x1ee12, 0x1ee12, 1, 0x642),
    (0x1ee13, 0x1ee13, 1, 0x631), (0x1ee14, 0x1ee14, 1, 0x634), (0x1ee15, 0x1ee16, 1, 0x62a),
    (0x1ee17, 0x1ee17, 1, 0x62e), (0x1ee18, 0x1ee18, 1, 0x630), (0x1ee19, 0x1ee19, 1, 0x636),
    (0x1ee1a, 0x1ee1a, 1, 0x638), (0x1ee1b, 0x1ee1b, 1, 0x63a), (0x1ee1c, 0x1ee1c, 1, 0x66e),
    (0x1ee1d, 0x1ee1d, 1, 0x6ba), (0x1ee1e, 0x1ee1e, 1, 0x6a1), (0x1ee1f, 0x1ee1f, 1, 0x66f),
    (0x1ee21, 0x1ee21, 1, 0x628), (0x1ee22, 0x1ee22, 1, 0x62c), (0x1ee24, 0x1ee24, 1, 0x647),
    (0x1ee27, 0x1ee27, 1, 0x62d), (0x1ee29, 0x1ee29, 1, 0x64a), (0x1ee2a, 0x1ee2d, 1, 0x643),
    (0x1ee2e, 0x1ee2e, 1, 0x633), (0x1ee2f, 0x1ee2f, 1, 0x639), (0x1ee30, 0x1ee30, 1, 0x641),
    (0x1ee31, 0x1ee31, 1, 0x635), (0x1ee32, 0x1ee32, 1, 0x642), (0x1ee34, 0x1ee34, 1, 0x634),
    (0x1ee35, 0x1ee36, 1, 0x62a), (0x1ee37, 0x1ee37, 1, 0x62e), (0x1ee39, 0x1ee39, 1, 0x636),
    (0x1ee3b, 0x1ee3b, 1, 0x63a), (0x1ee42, 0x1ee42, 1, 0x62c), (0x1ee47, 0x1ee47, 1, 0x62d),
    (0x1ee49, 0x1ee49, 1, 0x64a), (0x1ee4b, 0x1ee4d, 2, 0x644), (0x1ee4e, 0x1ee4e, 1, 0x633),
    (0x1ee4f, 0x1ee4f, 1, 0x639), (0x1ee51, 0x1ee51, 1, 0x635), (0x1ee52, 0x1ee52, 1, 0x642),
    (0x1ee54, 0x1ee54, 1, 0x634), (0x1ee57, 0x1ee57, 1, 0x62e), (0x1ee59, 0x1ee59, 1, 0x636),
    (0x1ee5b, 0x1ee5b, 1, 0x63a), (0x1ee5d, 0x1ee5d, 1, 0x6ba), (0x1ee5f, 0x1ee5f, 1, 0x66f),
    (0x1ee61, 0x1ee61, 1, 0x628), (0x1ee62, 0x1ee62, 1, 0x62c), (0x1ee64, 0x1ee64, 1, 0x647),
    (0x1ee67, 0x1ee67, 1, 0x62d), (0x1ee68, 0x1ee68, 1, 0x637), (0x1ee69, 0x1ee69, 1, 0x64a),
    (0x1ee6a, 0x1ee6c, 2, 0x643), (0x1ee6d, 0x1ee6d, 1, 0x646), (0x1ee6e, 0x1ee6e, 1, 0x633),
    (0x1ee6f, 0x1ee6f, 1, 0x639), (0x1ee70, 0x1ee70, 1, 0x641), (0x1ee71, 0x1ee71, 1, 0x635),
    (0x1ee72, 0x1ee72, 1, 0x642), (0x1ee74, 0x1ee74, 1, 0x634), (0x1ee75, 0x1ee76, 1, 0x62a),
    (0x1ee77, 0x1ee77, 1, 0x62e), (0x1ee79, 0x1ee79, 1, 0x636), (0x1ee7a, 0x1ee7a, 1, 0x638),
    (0x1ee7b, 0x1ee7b, 1, 0x63a), (0x1ee7c, 0x1ee7c, 1, 0x66e), (0x1ee7e, 0x1ee7e, 1, 0x6a1),
    (0x1ee80, 0x1ee81, 1, 0x627), (0x1ee82, 0x1ee82, 1, 0x62c), (0x1ee83, 0x1ee83, 1, 0x62f),
    (0x1ee84, 0x1ee85, 1, 0x647), (0x1ee86, 0x1ee86, 1, 0x632), (0x1ee87, 0x1ee87, 1, 0x62d),
    (0x1ee88, 0x1ee88, 1, 0x637), (0x1ee89, 0x1ee89, 1, 0x64a), (0x1ee8b, 0x1ee8d, 1, 0x644),
    (0x1ee8e, 0x1ee8e, 1, 0x633), (0x1ee8f, 0x1ee8f, 1, 0x639), (0x1ee90, 0x1ee90, 1, 0x641),
    (0x1ee91, 0x1ee91, 1, 0x635), (0x1ee92, 0x1ee92, 1, 0x642), (0x1ee93, 0x1ee93, 1, 0x631),
    (0x1ee94, 0x1ee94, 1, 0x634), (0x1ee95, 0x1ee96, 1, 0x62a), (0x1ee97, 0x1ee97, 1, 0x62e),
    (0x1ee98, 0x1ee98, 1, 0x630), (0x1ee99, 0x1ee99, 1, 0x636), (0x1ee9a, 0x1ee9a, 1, 0x638),
    (0x1ee9b, 0x1ee9b, 1, 0x63a), (0x1eea1, 0x1eea1, 1, 0x628), (0x1eea2, 0x1eea2, 1, 0x62c),
    (0x1eea3, 0x1eea3, 1, 0x62f), (0x1eea5, 0x1eea5, 1, 0x648), (0x1eea6, 0x1eea6, 1, 0x632),
    (0x1eea7, 0x1eea7, 1, 0x62d), (0x1eea8, 0x1eea8, 1, 0x637), (0x1eea9, 0x1eea9, 1, 0x64a),
    (0x1eeab, 0x1eead, 1, 0x644), (0x1eeae, 0x1eeae, 1, 0x633), (0x1eeaf, 0x1eeaf, 1, 0x639),
    (0x1eeb0, 0x1eeb0, 1, 0x641), (0x1eeb1, 0x1eeb1, 1, 0x635), (0x1eeb2, 0x1eeb2, 1, 0x642),
    (0x1eeb3, 0x1eeb3, 1, 0x631), (0x1eeb4, 0x1eeb4, 1, 0x634), (0x1eeb5, 0x1eeb6, 1, 0x62a),
    (0x1eeb7, 0x1eeb7, 1, 0x62e), (0x1eeb8, 0x1eeb8, 1, 0x630), (0x1eeb9, 0x1eeb9, 1, 0x636),
    (0x1eeba, 0x1eeba, 1, 0x638), (0x1eebb, 0x1eebb, 1, 0x63a), (0x1f12b, 0x1f12b, 1, 0x63),
    (0x1f12c, 0x1f12c, 1, 0x72), (0x1f130, 0x1f149, 1, 0x61), (0x1f202, 0x1f202, 1, 0x30b5),
    (0x1f210, 0x1f210, 1, 0x624b), (0x1f211, 0x1f211, 1, 0x5b57), (0x1f212, 0x1f212, 1, 0x53cc),
    (0x1f213, 0x1f213, 1, 0x30c7), (0x1f214, 0x1f214, 1, 0x4e8c), (0x1f215, 0x1f215, 1, 0x591a),
    (0x1f216, 0x1f216, 1, 0x89e3), (0x1f217, 0x1f217, 1, 0x5929), (0x1f218, 0x1f218, 1, 0x4ea4),
    (0x1f219, 0x1f219, 1, 0x6620), (0x1f21a, 0x1f21a, 1, 0x7121), (0x1f21b, 0x1f21b, 1, 0x6599),
    (0x1f21c, 0x1f21c, 1, 0x524d), (0x1f21d, 0x1f21d, 1, 0x5f8c), (0x1f21e, 0x1f21e, 1, 0x518d),
    (0x1f21f, 0x1f21f, 1, 0x65b0), (0x1f220, 0x1f220, 1, 0x521d), (0x1f221, 0x1f221, 1, 0x7d42),
    (0x1f222, 0x1f222, 1, 0x751f), (0x1f223, 0x1f223, 1, 0x8ca9), (0x1f224, 0x1f224, 1, 0x58f0),
    (0x1f225, 0x1f225, 1, 0x5439), (0x1f226, 0x1f226, 1, 0x6f14), (0x1f227, 0x1f227, 1, 0x6295),
    (0x1f228, 0x1f228, 1, 0x6355), (0x1f229, 0x1f229, 1, 0x4e00), (0x1f22a, 0x1f22a, 1, 0x4e09),
    (0x1f22b, 0x1f22b, 1, 0x904a), (0x1f22c, 0x1f22c, 1, 0x5de6), (0x1f22d, 0x1f22d, 1, 0x4e2d),
    (0x1f22e, 0x1f22e, 1, 0x53f3), (0x1f22f, 0x1f22f, 1, 0x6307), (0x1f230, 0x1f230, 1, 0x8d70),
    (0x1f231, 0x1f231, 1, 0x6253), (0x1f232, 0x1f232, 1, 0x7981), (0x1f233, 0x1f233, 1, 0x7a7a),
    (0x1f234, 0x1f234, 1, 0x5408), (0x1f235, 0x1f235, 1, 0x6e80), (0x1f236, 0x1f236, 1, 0x6709),
    (0x1f237, 0x1f237, 1, 0x6708), (0x1f238, 0x1f238, 1, 0x7533), (0x1f239, 0x1f239, 1, 0x5272),
    (0x1f23a, 0x1f23a, 1, 0x55b6), (0x1f23b, 0x1f23b, 1, 0x914d), (0x1f250, 0x1f250, 1, 0x5f97),
    (0x1f251, 0x1f251, 1, 0x53ef), (0x1fbf0, 0x1fbf9, 1, 0x30)]

def symbolGroups : Array (Nat × List Nat) := #[
  (0x1d15e, [0x1d157, 0x1d165]), (0x1d15f, [0x1d158, 0x1d165]),
    (0x1d160, [0x1d158, 0x1d165, 0x1d16e]), (0x1d161, [0x1d158, 0x1d165, 0x1d16f]),
    (0x1d162, [0x1d158, 0x1d165, 0x1d170]), (0x1d163, [0x1d158, 0x1d165, 0x1d171]),
    (0x1d164, [0x1d158, 0x1d165, 0x1d172]), (0x1d1bb, [0x1d1b9, 0x1d165]),
    (0x1d1bc, [0x1d1ba, 0x1d165]), (0x1d1bd, [0x1d1b9, 0x1d165, 0x1d16e]),
    (0x1d1be, [0x1d1ba, 0x1d165, 0x1d16e]), (0x1d1bf, [0x1d1b9, 0x1d165, 0x1d16f]),
    (0x1d1c0, [0x1d1ba, 0x1d165, 0x1d16f]), (0x1f101, [0x30, 0x2c]), (0x1f102, [0x31, 0x2c]),
    (0x1f103, [0x32, 0x2c]), (0x1f104, [0x33, 0x2c]), (0x1f105, [0x34, 0x2c]),
    (0x1f106, [0x35, 0x2c]), (0x1f107, [0x36, 0x2c]), (0x1f108, [0x37, 0x2c]),
    (0x1f109, [0x38, 0x2c]), (0x1f10a, [0x39, 0x2c]), (0x1f110, [0x28, 0x61, 0x29]),
    (0x1f111, [0x28, 0x62, 0x29]), (0x1f112, [0x28, 0x63, 0x29]), (0x1f113, [0x28, 0x64, 0x29]),
    (0x1f114, [0x28, 0x65, 0x29]), (0x1f115, [0x28, 0x66, 0x29]), (0x1f116, [0x28, 0x67, 0x29]),
    (0x1f117, [0x28, 0x68, 0x29]), (0x1f118, [0x28, 0x69, 0x29]), (0x1f119, [0x28, 0x6a, 0x29]),
    (0x1f11a, [0x28, 0x6b, 0x29]), (0x1f11b, [0x28, 0x6c, 0x29]), (0x1f11c, [0x28, 0x6d, 0x29]),
    (0x1f11d, [0x28, 0x6e, 0x29]), (0x1f11e, [0x28, 0x6f, 0x29]), (0x1f11f, [0x28, 0x70, 0x29]),
    (0x1f120, [0x28, 0x71, 0x29]), (0x1f121, [0x28, 0x72, 0x29]), (0x1f122, [0x28, 0x73, 0x29]),
    (0x1f123, [0x28, 0x74, 0x29]), (0x1f124, [0x28, 0x75, 0x29]), (0x1f125, [0x28, 0x76, 0x29]),
    (0x1f126, [0x28, 0x77, 0x29]), (0x1f127, [0x28, 0x78, 0x29]), (0x1f128, [0x28, 0x79, 0x29]),
    (0x1f129, [0x28, 0x7a, 0x29]), (0x1f12a, [0x3014, 0x73, 0x3015]), (0x1f12d, [0x63, 0x64]),
    (0x1f12e, [0x77, 0x7a]), (0x1f14a, [0x68, 0x76]), (0x1f14b, [0x6d, 0x76]),
    (0x1f14c, [0x73, 0x64]), (0x1f14d, [0x73, 0x73]), (0x1f14e, [0x70, 0x70, 0x76]),
    (0x1f14f, [0x77, 0x63]), (0x1f16a, [0x6d, 0x63]), (0x1f16b, [0x6d, 0x64]),
    (0x1f16c, [0x6d, 0x72]), (0x1f190, [0x64, 0x6a]), (0x1f200, [0x307b, 0x304b]),
    (0x1f201, [0x30b3, 0x30b3]), (0x1f240, [0x3014, 0x672c, 0x3015]),
    (0x1f241, [0x3014, 0x4e09, 0x3015]), (0x1f242, [0x3014, 0x4e8c, 0x3015]),
    (0x1f243, [0x3014, 0x5b89, 0x3015]), (0x1f244, [0x3014, 0x70b9, 0x3015]),
    (0x1f245, [0x3014, 0x6253, 0x3015]), (0x1f246, [0x3014, 0x76d7, 0x3015]),
    (0x1f247, [0x3014, 0x52dd, 0x3015]), (0x1f248, [0x3014, 0x6557, 0x3015])]

end QueryWatch.HostName.Forms
