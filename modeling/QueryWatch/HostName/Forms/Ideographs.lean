namespace QueryWatch.HostName.Forms

def signRuns : Array (Nat × Nat × Nat × Nat) := #[
  (0x2e9f, 0x2e9f, 1, 0x6bcd), (0x2ef3, 0x2ef3, 1, 0x9f9f), (0x2f00, 0x2f00, 1, 0x4e00),
    (0x2f01, 0x2f01, 1, 0x4e28), (0x2f02, 0x2f02, 1, 0x4e36), (0x2f03, 0x2f03, 1, 0x4e3f),
    (0x2f04, 0x2f04, 1, 0x4e59), (0x2f05, 0x2f05, 1, 0x4e85), (0x2f06, 0x2f06, 1, 0x4e8c),
    (0x2f07, 0x2f07, 1, 0x4ea0), (0x2f08, 0x2f08, 1, 0x4eba), (0x2f09, 0x2f09, 1, 0x513f),
    (0x2f0a, 0x2f0a, 1, 0x5165), (0x2f0b, 0x2f0b, 1, 0x516b), (0x2f0c, 0x2f0c, 1, 0x5182),
    (0x2f0d, 0x2f0d, 1, 0x5196), (0x2f0e, 0x2f0e, 1, 0x51ab), (0x2f0f, 0x2f0f, 1, 0x51e0),
    (0x2f10, 0x2f10, 1, 0x51f5), (0x2f11, 0x2f11, 1, 0x5200), (0x2f12, 0x2f12, 1, 0x529b),
    (0x2f13, 0x2f13, 1, 0x52f9), (0x2f14, 0x2f14, 1, 0x5315), (0x2f15, 0x2f15, 1, 0x531a),
    (0x2f16, 0x2f16, 1, 0x5338), (0x2f17, 0x2f17, 1, 0x5341), (0x2f18, 0x2f18, 1, 0x535c),
    (0x2f19, 0x2f19, 1, 0x5369), (0x2f1a, 0x2f1a, 1, 0x5382), (0x2f1b, 0x2f1b, 1, 0x53b6),
    (0x2f1c, 0x2f1c, 1, 0x53c8), (0x2f1d, 0x2f1d, 1, 0x53e3), (0x2f1e, 0x2f1e, 1, 0x56d7),
    (0x2f1f, 0x2f1f, 1, 0x571f), (0x2f20, 0x2f20, 1, 0x58eb), (0x2f21, 0x2f21, 1, 0x5902),
    (0x2f22, 0x2f22, 1, 0x590a), (0x2f23, 0x2f23, 1, 0x5915), (0x2f24, 0x2f24, 1, 0x5927),
    (0x2f25, 0x2f25, 1, 0x5973), (0x2f26, 0x2f26, 1, 0x5b50), (0x2f27, 0x2f27, 1, 0x5b80),
    (0x2f28, 0x2f28, 1, 0x5bf8), (0x2f29, 0x2f29, 1, 0x5c0f), (0x2f2a, 0x2f2a, 1, 0x5c22),
    (0x2f2b, 0x2f2b, 1, 0x5c38), (0x2f2c, 0x2f2c, 1, 0x5c6e), (0x2f2d, 0x2f2d, 1, 0x5c71),
    (0x2f2e, 0x2f2e, 1, 0x5ddb), (0x2f2f, 0x2f2f, 1, 0x5de5), (0x2f30, 0x2f30, 1, 0x5df1),
    (0x2f31, 0x2f31, 1, 0x5dfe), (0x2f32, 0x2f32, 1, 0x5e72), (0x2f33, 0x2f33, 1, 0x5e7a),
    (0x2f34, 0x2f34, 1, 0x5e7f), (0x2f35, 0x2f35, 1, 0x5ef4), (0x2f36, 0x2f36, 1, 0x5efe),
    (0x2f37, 0x2f37, 1, 0x5f0b), (0x2f38, 0x2f38, 1, 0x5f13), (0x2f39, 0x2f39, 1, 0x5f50),
    (0x2f3a, 0x2f3a, 1, 0x5f61), (0x2f3b, 0x2f3b, 1, 0x5f73), (0x2f3c, 0x2f3c, 1, 0x5fc3),
    (0x2f3d, 0x2f3d, 1, 0x6208), (0x2f3e, 0x2f3e, 1, 0x6236), (0x2f3f, 0x2f3f, 1, 0x624b),
    (0x2f40, 0x2f40, 1, 0x652f), (0x2f41, 0x2f41, 1, 0x6534), (0x2f42, 0x2f42, 1, 0x6587),
    (0x2f43, 0x2f43, 1, 0x6597), (0x2f44, 0x2f44, 1, 0x65a4), (0x2f45, 0x2f45, 1, 0x65b9),
    (0x2f46, 0x2f46, 1, 0x65e0), (0x2f47, 0x2f47, 1, 0x65e5), (0x2f48, 0x2f48, 1, 0x66f0),
    (0x2f49, 0x2f49, 1, 0x6708), (0x2f4a, 0x2f4a, 1, 0x6728), (0x2f4b, 0x2f4b, 1, 0x6b20),
    (0x2f4c, 0x2f4c, 1, 0x6b62), (0x2f4d, 0x2f4d, 1, 0x6b79), (0x2f4e, 0x2f4e, 1, 0x6bb3),
    (0x2f4f, 0x2f4f, 1, 0x6bcb), (0x2f50, 0x2f50, 1, 0x6bd4), (0x2f51, 0x2f51, 1, 0x6bdb),
    (0x2f52, 0x2f52, 1, 0x6c0f), (0x2f53, 0x2f53, 1, 0x6c14), (0x2f54, 0x2f54, 1, 0x6c34),
    (0x2f55, 0x2f55, 1, 0x706b), (0x2f56, 0x2f56, 1, 0x722a), (0x2f57, 0x2f57, 1, 0x7236),
    (0x2f58, 0x2f58, 1, 0x723b), (0x2f59, 0x2f59, 1, 0x723f), (0x2f5a, 0x2f5a, 1, 0x7247),
    (0x2f5b, 0x2f5b, 1, 0x7259), (0x2f5c, 0x2f5c, 1, 0x725b), (0x2f5d, 0x2f5d, 1, 0x72ac),
    (0x2f5e, 0x2f5e, 1, 0x7384), (0x2f5f, 0x2f5f, 1, 0x7389), (0x2f60, 0x2f60, 1, 0x74dc),
    (0x2f61, 0x2f61, 1, 0x74e6), (0x2f62, 0x2f62, 1, 0x7518), (0x2f63, 0x2f63, 1, 0x751f),
    (0x2f64, 0x2f64, 1, 0x7528), (0x2f65, 0x2f65, 1, 0x7530), (0x2f66, 0x2f66, 1, 0x758b),
    (0x2f67, 0x2f67, 1, 0x7592), (0x2f68, 0x2f68, 1, 0x7676), (0x2f69, 0x2f69, 1, 0x767d),
    (0x2f6a, 0x2f6a, 1, 0x76ae), (0x2f6b, 0x2f6b, 1, 0x76bf), (0x2f6c, 0x2f6c, 1, 0x76ee),
    (0x2f6d, 0x2f6d, 1, 0x77db), (0x2f6e, 0x2f6e, 1, 0x77e2), (0x2f6f, 0x2f6f, 1, 0x77f3),
    (0x2f70, 0x2f70, 1, 0x793a), (0x2f71, 0x2f71, 1, 0x79b8), (0x2f72, 0x2f72, 1, 0x79be),
    (0x2f73, 0x2f73, 1, 0x7a74), (0x2f74, 0x2f74, 1, 0x7acb), (0x2f75, 0x2f75, 1, 0x7af9),
    (0x2f76, 0x2f76, 1, 0x7c73), (0x2f77, 0x2f77, 1, 0x7cf8), (0x2f78, 0x2f78, 1, 0x7f36),
    (0x2f79, 0x2f79, 1, 0x7f51), (0x2f7a, 0x2f7a, 1, 0x7f8a), (0x2f7b, 0x2f7b, 1, 0x7fbd),
    (0x2f7c, 0x2f7c, 1, 0x8001), (0x2f7d, 0x2f7d, 1, 0x800c), (0x2f7e, 0x2f7e, 1, 0x8012),
    (0x2f7f, 0x2f7f, 1, 0x8033), (0x2f80, 0x2f80, 1, 0x807f), (0x2f81, 0x2f81, 1, 0x8089),
    (0x2f82, 0x2f82, 1, 0x81e3), (0x2f83, 0x2f83, 1, 0x81ea), (0x2f84, 0x2f84, 1, 0x81f3),
    (0x2f85, 0x2f85, 1, 0x81fc), (0x2f86, 0x2f86, 1, 0x820c), (0x2f87, 0x2f87, 1, 0x821b),
    (0x2f88, 0x2f88, 1, 0x821f), (0x2f89, 0x2f89, 1, 0x826e), (0x2f8a, 0x2f8a, 1, 0x8272),
    (0x2f8b, 0x2f8b, 1, 0x8278), (0x2f8c, 0x2f8c, 1, 0x864d), (0x2f8d, 0x2f8d, 1, 0x866b),
    (0x2f8e, 0x2f8e, 1, 0x8840), (0x2f8f, 0x2f8f, 1, 0x884c), (0x2f90, 0x2f90, 1, 0x8863),
    (0x2f91, 0x2f91, 1, 0x897e), (0x2f92, 0x2f92, 1, 0x898b), (0x2f93, 0x2f93, 1, 0x89d2),
    (0x2f94, 0x2f94, 1, 0x8a00), (0x2f95, 0x2f95, 1, 0x8c37), (0x2f96, 0x2f96, 1, 0x8c46),
    (0x2f97, 0x2f97, 1, 0x8c55), (0x2f98, 0x2f98, 1, 0x8c78), (0x2f99, 0x2f99, 1, 0x8c9d),
    (0x2f9a, 0x2f9a, 1, 0x8d64), (0x2f9b, 0x2f9b, 1, 0x8d70), (0x2f9c, 0x2f9c, 1, 0x8db3),
    (0x2f9d, 0x2f9d, 1, 0x8eab), (0x2f9e, 0x2f9e, 1, 0x8eca), (0x2f9f, 0x2f9f, 1, 0x8f9b),
    (0x2fa0, 0x2fa0, 1, 0x8fb0), (0x2fa1, 0x2fa1, 1, 0x8fb5), (0x2fa2, 0x2fa2, 1, 0x9091),
    (0x2fa3, 0x2fa3, 1, 0x9149), (0x2fa4, 0x2fa4, 1, 0x91c6), (0x2fa5, 0x2fa5, 1, 0x91cc),
    (0x2fa6, 0x2fa6, 1, 0x91d1), (0x2fa7, 0x2fa7, 1, 0x9577), (0x2fa8, 0x2fa8, 1, 0x9580),
    (0x2fa9, 0x2fa9, 1, 0x961c), (0x2faa, 0x2faa, 1, 0x96b6), (0x2fab, 0x2fab, 1, 0x96b9),
    (0x2fac, 0x2fac, 1, 0x96e8), (0x2fad, 0x2fad, 1, 0x9751), (0x2fae, 0x2fae, 1, 0x975e),
    (0x2faf, 0x2faf, 1, 0x9762), (0x2fb0, 0x2fb0, 1, 0x9769), (0x2fb1, 0x2fb1, 1, 0x97cb),
    (0x2fb2, 0x2fb2, 1, 0x97ed), (0x2fb3, 0x2fb3, 1, 0x97f3), (0x2fb4, 0x2fb4, 1, 0x9801),
    (0x2fb5, 0x2fb5, 1, 0x98a8), (0x2fb6, 0x2fb6, 1, 0x98db), (0x2fb7, 0x2fb7, 1, 0x98df),
    (0x2fb8, 0x2fb8, 1, 0x9996), (0x2fb9, 0x2fb9, 1, 0x9999), (0x2fba, 0x2fba, 1, 0x99ac),
    (0x2fbb, 0x2fbb, 1, 0x9aa8), (0x2fbc, 0x2fbc, 1, 0x9ad8), (0x2fbd, 0x2fbd, 1, 0x9adf),
    (0x2fbe, 0x2fbe, 1, 0x9b25), (0x2fbf, 0x2fbf, 1, 0x9b2f), (0x2fc0, 0x2fc0, 1, 0x9b32),
    (0x2fc1, 0x2fc1, 1, 0x9b3c), (0x2fc2, 0x2fc2, 1, 0x9b5a), (0x2fc3, 0x2fc3, 1, 0x9ce5),
    (0x2fc4, 0x2fc4, 1, 0x9e75), (0x2fc5, 0x2fc5, 1, 0x9e7f), (0x2fc6, 0x2fc6, 1, 0x9ea5),
    (0x2fc7, 0x2fc7, 1, 0x9ebb), (0x2fc8, 0x2fc8, 1, 0x9ec3), (0x2fc9, 0x2fc9, 1, 0x9ecd),
    (0x2fca, 0x2fca, 1, 0x9ed1), (0x2fcb, 0x2fcb, 1, 0x9ef9), (0x2fcc, 0x2fcc, 1, 0x9efd),
    (0x2fcd, 0x2fcd, 1, 0x9f0e), (0x2fce, 0x2fce, 1, 0x9f13), (0x2fcf, 0x2fcf, 1, 0x9f20),
    (0x2fd0, 0x2fd0, 1, 0x9f3b), (0x2fd1, 0x2fd1, 1, 0x9f4a), (0x2fd2, 0x2fd2, 1, 0x9f52),
    (0x2fd3, 0x2fd3, 1, 0x9f8d), (0x2fd4, 0x2fd4, 1, 0x9f9c), (0x2fd5, 0x2fd5, 1, 0x9fa0),
    (0x3000, 0x3000, 1, 0x20), (0x3002, 0x3002, 1, 0x2e), (0x3036, 0x3036, 1, 0x3012),
    (0x3038, 0x3038, 1, 0x5341), (0x3039, 0x303a, 1, 0x5344), (0x3131, 0x3132, 1, 0x1100),
    (0x3133, 0x3133, 1, 0x11aa), (0x3134, 0x3134, 1, 0x1102), (0x3135, 0x3136, 1, 0x11ac),
    (0x3137, 0x3139, 1, 0x1103), (0x313a, 0x313f, 1, 0x11b0), (0x3140, 0x3140, 1, 0x111a),
    (0x3141, 0x3143, 1, 0x1106), (0x3144, 0x3144, 1, 0x1121), (0x3145, 0x314e, 1, 0x1109),
    (0x314f, 0x3163, 1, 0x1161), (0x3165, 0x3166, 1, 0x1114), (0x3167, 0x3168, 1, 0x11c7),
    (0x3169, 0x3169, 1, 0x11cc), (0x316a, 0x316a, 1, 0x11ce), (0x316b, 0x316b, 1, 0x11d3),
    (0x316c, 0x316c, 1, 0x11d7), (0x316d, 0x316d, 1, 0x11d9), (0x316e, 0x316e, 1, 0x111c),
    (0x316f, 0x316f, 1, 0x11dd), (0x3170, 0x3170, 1, 0x11df), (0x3171, 0x3172, 1, 0x111d),
    (0x3173, 0x3173, 1, 0x1120), (0x3174, 0x3175, 1, 0x1122), (0x3176, 0x3176, 1, 0x1127),
    (0x3177, 0x3177, 1, 0x1129), (0x3178, 0x317c, 1, 0x112b), (0x317d, 0x317d, 1, 0x1132),
    (0x317e, 0x317e, 1, 0x1136), (0x317f, 0x317f, 1, 0x1140), (0x3180, 0x3180, 1, 0x1147),
    (0x3181, 0x3181, 1, 0x114c), (0x3182, 0x3183, 1, 0x11f1), (0x3184, 0x3186, 1, 0x1157),
    (0x3187, 0x3188, 1, 0x1184), (0x3189, 0x3189, 1, 0x1188), (0x318a, 0x318b, 1, 0x1191),
    (0x318c, 0x318c, 1, 0x1194), (0x318d, 0x318d, 1, 0x119e), (0x318e, 0x318e, 1, 0x11a1),
    (0x3192, 0x3192, 1, 0x4e00), (0x3193, 0x3193, 1, 0x4e8c), (0x3194, 0x3194, 1, 0x4e09),
    (0x3195, 0x3195, 1, 0x56db), (0x3196, 0x3196, 1, 0x4e0a), (0x3197, 0x3197, 1, 0x4e2d),
    (0x3198, 0x3198, 1, 0x4e0b), (0x3199, 0x3199, 1, 0x7532), (0x319a, 0x319a, 1, 0x4e59),
    (0x319b, 0x319b, 1, 0x4e19), (0x319c, 0x319c, 1, 0x4e01), (0x319d, 0x319d, 1, 0x5929),
    (0x319e, 0x319e, 1, 0x5730), (0x319f, 0x319f, 1, 0x4eba), (0x3244, 0x3244, 1, 0x554f),
    (0x3245, 0x3245, 1, 0x5e7c), (0x3246, 0x3246, 1, 0x6587), (0x3247, 0x3247, 1, 0x7b8f),
    (0x3260, 0x3260, 1, 0x1100), (0x3261, 0x3262, 1, 0x1102), (0x3263, 0x3265, 1, 0x1105),
    (0x3266, 0x3266, 1, 0x1109), (0x3267, 0x3268, 1, 0x110b), (0x3269, 0x326d, 1, 0x110e),
    (0x326e, 0x326e, 1, 0xac00), (0x326f, 0x326f, 1, 0xb098), (0x3270, 0x3270, 1, 0xb2e4),
    (0x3271, 0x3271, 1, 0xb77c), (0x3272, 0x3272, 1, 0xb9c8), (0x3273, 0x3273, 1, 0xbc14),
    (0x3274, 0x3274, 1, 0xc0ac), (0x3275, 0x3275, 1, 0xc544), (0x3276, 0x3276, 1, 0xc790),
    (0x3277, 0x3277, 1, 0xcc28), (0x3278, 0x3278, 1, 0xce74), (0x3279, 0x3279, 1, 0xd0c0),
    (0x327a, 0x327a, 1, 0xd30c), (0x327b, 0x327b, 1, 0xd558), (0x327e, 0x327e, 1, 0xc6b0),
    (0x3280, 0x3280, 1, 0x4e00), (0x3281, 0x3281, 1, 0x4e8c), (0x3282, 0x3282, 1, 0x4e09),
    (0x3283, 0x3283, 1, 0x56db), (0x3284, 0x3284, 1, 0x4e94), (0x3285, 0x3285, 1, 0x516d),
    (0x3286, 0x3286, 1, 0x4e03), (0x3287, 0x3287, 1, 0x516b), (0x3288, 0x3288, 1, 0x4e5d),
    (0x3289, 0x3289, 1, 0x5341), (0x328a, 0x328a, 1, 0x6708), (0x328b, 0x328b, 1, 0x706b),
    (0x328c, 0x328c, 1, 0x6c34), (0x328d, 0x328d, 1, 0x6728), (0x328e, 0x328e, 1, 0x91d1),
    (0x328f, 0x328f, 1, 0x571f), (0x3290, 0x3290, 1, 0x65e5), (0x3291, 0x3291, 1, 0x682a),
    (0x3292, 0x3292, 1, 0x6709), (0x3293, 0x3293, 1, 0x793e), (0x3294, 0x3294, 1, 0x540d),
    (0x3295, 0x3295, 1, 0x7279), (0x3296, 0x3296, 1, 0x8ca1), (0x3297, 0x3297, 1, 0x795d),
    (0x3298, 0x3298, 1, 0x52b4), (0x3299, 0x3299, 1, 0x79d8), (0x329a, 0x329a, 1, 0x7537),
    (0x329b, 0x329b, 1, 0x5973), (0x329c, 0x329c, 1, 0x9069), (0x329d, 0x329d, 1, 0x512a),
    (0x329e, 0x329e, 1, 0x5370), (0x329f, 0x329f, 1, 0x6ce8), (0x32a0, 0x32a0, 1, 0x9805),
    (0x32a1, 0x32a1, 1, 0x4f11), (0x32a2, 0x32a2, 1, 0x5199), (0x32a3, 0x32a3, 1, 0x6b63),
    (0x32a4, 0x32a4, 1, 0x4e0a), (0x32a5, 0x32a5, 1, 0x4e2d), (0x32a6, 0x32a6, 1, 0x4e0b),
    (0x32a7, 0x32a7, 1, 0x5de6), (0x32a8, 0x32a8, 1, 0x53f3), (0x32a9, 0x32a9, 1, 0x533b),
    (0x32aa, 0x32aa, 1, 0x5b97), (0x32ab, 0x32ab, 1, 0x5b66), (0x32ac, 0x32ac, 1, 0x76e3),
    (0x32ad, 0x32ad, 1, 0x4f01), (0x32ae, 0x32ae, 1, 0x8cc7), (0x32af, 0x32af, 1, 0x5354),
    (0x32b0, 0x32b0, 1, 0x591c), (0x32d0, 0x32d0, 1, 0x30a2), (0x32d1, 0x32d1, 1, 0x30a4),
    (0x32d2, 0x32d2, 1, 0x30a6), (0x32d3, 0x32d3, 1, 0x30a8), (0x32d4, 0x32d5, 1, 0x30aa),
    (0x32d6, 0x32d6, 1, 0x30ad), (0x32d7, 0x32d7, 1, 0x30af), (0x32d8, 0x32d8, 1, 0x30b1),
    (0x32d9, 0x32d9, 1, 0x30b3), (0x32da, 0x32da, 1, 0x30b5), (0x32db, 0x32db, 1, 0x30b7),
    (0x32dc, 0x32dc, 1, 0x30b9), (0x32dd, 0x32dd, 1, 0x30bb), (0x32de, 0x32de, 1, 0x30bd),
    (0x32df, 0x32df, 1, 0x30bf), (0x32e0, 0x32e0, 1, 0x30c1), (0x32e1, 0x32e1, 1, 0x30c4),
    (0x32e2, 0x32e2, 1, 0x30c6), (0x32e3, 0x32e3, 1, 0x30c8), (0x32e4, 0x32e9, 1, 0x30ca),
    (0x32ea, 0x32ea, 1, 0x30d2), (0x32eb, 0x32eb, 1, 0x30d5), (0x32ec, 0x32ec, 1, 0x30d8),
    (0x32ed, 0x32ed, 1, 0x30db), (0x32ee, 0x32f2, 1, 0x30de), (0x32f3, 0x32f3, 1, 0x30e4),
    (0x32f4, 0x32f4, 1, 0x30e6), (0x32f5, 0x32fa, 1, 0x30e8), (0x32fb, 0x32fe, 1, 0x30ef)]

def signGroups : Array (Nat × List Nat) := #[
  (0x309b, [0x20, 0x3099]), (0x309c, [0x20, 0x309a]), (0x309f, [0x3088, 0x308a]),
    (0x30ff, [0x30b3, 0x30c8]), (0x3200, [0x28, 0x1100, 0x29]), (0x3201, [0x28, 0x1102, 0x29]),
    (0x3202, [0x28, 0x1103, 0x29]), (0x3203, [0x28, 0x1105, 0x29]), (0x3204, [0x28, 0x1106, 0x29]),
    (0x3205, [0x28, 0x1107, 0x29]), (0x3206, [0x28, 0x1109, 0x29]), (0x3207, [0x28, 0x110b, 0x29]),
    (0x3208, [0x28, 0x110c, 0x29]), (0x3209, [0x28, 0x110e, 0x29]), (0x320a, [0x28, 0x110f, 0x29]),
    (0x320b, [0x28, 0x1110, 0x29]), (0x320c, [0x28, 0x1111, 0x29]), (0x320d, [0x28, 0x1112, 0x29]),
    (0x320e, [0x28, 0xac00, 0x29]), (0x320f, [0x28, 0xb098, 0x29]), (0x3210, [0x28, 0xb2e4, 0x29]),
    (0x3211, [0x28, 0xb77c, 0x29]), (0x3212, [0x28, 0xb9c8, 0x29]), (0x3213, [0x28, 0xbc14, 0x29]),
    (0x3214, [0x28, 0xc0ac, 0x29]), (0x3215, [0x28, 0xc544, 0x29]), (0x3216, [0x28, 0xc790, 0x29]),
    (0x3217, [0x28, 0xcc28, 0x29]), (0x3218, [0x28, 0xce74, 0x29]), (0x3219, [0x28, 0xd0c0, 0x29]),
    (0x321a, [0x28, 0xd30c, 0x29]), (0x321b, [0x28, 0xd558, 0x29]), (0x321c, [0x28, 0xc8fc, 0x29]),
    (0x321d, [0x28, 0xc624, 0xc804, 0x29]), (0x321e, [0x28, 0xc624, 0xd6c4, 0x29]),
    (0x3220, [0x28, 0x4e00, 0x29]), (0x3221, [0x28, 0x4e8c, 0x29]), (0x3222, [0x28, 0x4e09, 0x29]),
    (0x3223, [0x28, 0x56db, 0x29]), (0x3224, [0x28, 0x4e94, 0x29]), (0x3225, [0x28, 0x516d, 0x29]),
    (0x3226, [0x28, 0x4e03, 0x29]), (0x3227, [0x28, 0x516b, 0x29]), (0x3228, [0x28, 0x4e5d, 0x29]),
    (0x3229, [0x28, 0x5341, 0x29]), (0x322a, [0x28, 0x6708, 0x29]), (0x322b, [0x28, 0x706b, 0x29]),
    (0x322c, [0x28, 0x6c34, 0x29]), (0x322d, [0x28, 0x6728, 0x29]), (0x322e, [0x28, 0x91d1, 0x29]),
    (0x322f, [0x28, 0x571f, 0x29]), (0x3230, [0x28, 0x65e5, 0x29]), (0x3231, [0x28, 0x682a, 0x29]),
    (0x3232, [0x28, 0x6709, 0x29]), (0x3233, [0x28, 0x793e, 0x29]), (0x3234, [0x28, 0x540d, 0x29]),
    (0x3235, [0x28, 0x7279, 0x29]), (0x3236, [0x28, 0x8ca1, 0x29]), (0x3237, [0x28, 0x795d, 0x29]),
    (0x3238, [0x28, 0x52b4, 0x29]), (0x3239, [0x28, 0x4ee3, 0x29]), (0x323a, [0x28, 0x547c, 0x29]),
    (0x323b, [0x28, 0x5b66, 0x29]), (0x323c, [0x28, 0x76e3, 0x29]), (0x323d, [0x28, 0x4f01, 0x29]),
    (0x323e, [0x28, 0x8cc7, 0x29]), (0x323f, [0x28, 0x5354, 0x29]), (0x3240, [0x28, 0x796d, 0x29]),
    (0x3241, [0x28, 0x4f11, 0x29]), (0x3242, [0x28, 0x81ea, 0x29]), (0x3243, [0x28, 0x81f3, 0x29]),
    (0x3250, [0x70, 0x74, 0x65]), (0x3251, [0x32, 0x31]), (0x3252, [0x32, 0x32]),
    (0x3253, [0x32, 0x33]), (0x3254, [0x32, 0x34]), (0x3255, [0x32, 0x35]), (0x3256, [0x32, 0x36]),
    (0x3257, [0x32, 0x37]), (0x3258, [0x32, 0x38]), (0x3259, [0x32, 0x39]), (0x325a, [0x33, 0x30]),
    (0x325b, [0x33, 0x31]), (0x325c, [0x33, 0x32]), (0x325d, [0x33, 0x33]), (0x325e, [0x33, 0x34]),
    (0x325f, [0x33, 0x35]), (0x327c, [0xcc38, 0xace0]), (0x327d, [0xc8fc, 0xc758]),
    (0x32b1, [0x33, 0x36]), (0x32b2, [0x33, 0x37]), (0x32b3, [0x33, 0x38]), (0x32b4, [0x33, 0x39]),
    (0x32b5, [0x34, 0x30]), (0x32b6, [0x34, 0x31]), (0x32b7, [0x34, 0x32]), (0x32b8, [0x34, 0x33]),
    (0x32b9, [0x34, 0x34]), (0x32ba, [0x34, 0x35]), (0x32bb, [0x34, 0x36]), (0x32bc, [0x34, 0x37]),
    (0x32bd, [0x34, 0x38]), (0x32be, [0x34, 0x39]), (0x32bf, [0x35, 0x30]),
    (0x32c0, [0x31, 0x6708]), (0x32c1, [0x32, 0x6708]), (0x32c2, [0x33, 0x6708]),
    (0x32c3, [0x34, 0x6708]), (0x32c4, [0x35, 0x6708]), (0x32c5, [0x36, 0x6708]),
    (0x32c6, [0x37, 0x6708]), (0x32c7, [0x38, 0x6708]), (0x32c8, [0x39, 0x6708]),
    (0x32c9, [0x31, 0x30, 0x6708]), (0x32ca, [0x31, 0x31, 0x6708]), (0x32cb, [0x31, 0x32, 0x6708]),
    (0x32cc, [0x68, 0x67]), (0x32cd, [0x65, 0x72, 0x67]), (0x32ce, [0x65, 0x76]),
    (0x32cf, [0x6c, 0x74, 0x64]), (0x32ff, [0x4ee4, 0x548c]),
    (0x3300, [0x30a2, 0x30d1, 0x30fc, 0x30c8]), (0x3301, [0x30a2, 0x30eb, 0x30d5, 0x30a1]),
    (0x3302, [0x30a2, 0x30f3, 0x30da, 0x30a2]), (0x3303, [0x30a2, 0x30fc, 0x30eb]),
    (0x3304, [0x30a4, 0x30cb, 0x30f3, 0x30b0]), (0x3305, [0x30a4, 0x30f3, 0x30c1]),
    (0x3306, [0x30a6, 0x30a9, 0x30f3]), (0x3307, [0x30a8, 0x30b9, 0x30af, 0x30fc, 0x30c9]),
    (0x3308, [0x30a8, 0x30fc, 0x30ab, 0x30fc]), (0x3309, [0x30aa, 0x30f3, 0x30b9]),
    (0x330a, [0x30aa, 0x30fc, 0x30e0]), (0x330b, [0x30ab, 0x30a4, 0x30ea]),
    (0x330c, [0x30ab, 0x30e9, 0x30c3, 0x30c8]), (0x330d, [0x30ab, 0x30ed, 0x30ea, 0x30fc]),
    (0x330e, [0x30ac, 0x30ed, 0x30f3]), (0x330f, [0x30ac, 0x30f3, 0x30de]),
    (0x3310, [0x30ae, 0x30ac]), (0x3311, [0x30ae, 0x30cb, 0x30fc]),
    (0x3312, [0x30ad, 0x30e5, 0x30ea, 0x30fc]), (0x3313, [0x30ae, 0x30eb, 0x30c0, 0x30fc]),
    (0x3314, [0x30ad, 0x30ed]), (0x3315, [0x30ad, 0x30ed, 0x30b0, 0x30e9, 0x30e0]),
    (0x3316, [0x30ad, 0x30ed, 0x30e1, 0x30fc, 0x30c8, 0x30eb]),
    (0x3317, [0x30ad, 0x30ed, 0x30ef, 0x30c3, 0x30c8]), (0x3318, [0x30b0, 0x30e9, 0x30e0]),
    (0x3319, [0x30b0, 0x30e9, 0x30e0, 0x30c8, 0x30f3]),
    (0x331a, [0x30af, 0x30eb, 0x30bc, 0x30a4, 0x30ed]), (0x331b, [0x30af, 0x30ed, 0x30fc, 0x30cd]),
    (0x331c, [0x30b1, 0x30fc, 0x30b9]), (0x331d, [0x30b3, 0x30eb, 0x30ca]),
    (0x331e, [0x30b3, 0x30fc, 0x30dd]), (0x331f, [0x30b5, 0x30a4, 0x30af, 0x30eb]),
    (0x3320, [0x30b5, 0x30f3, 0x30c1, 0x30fc, 0x30e0]), (0x3321, [0x30b7, 0x30ea, 0x30f3, 0x30b0]),
    (0x3322, [0x30bb, 0x30f3, 0x30c1]), (0x3323, [0x30bb, 0x30f3, 0x30c8]),
    (0x3324, [0x30c0, 0x30fc, 0x30b9]), (0x3325, [0x30c7, 0x30b7]), (0x3326, [0x30c9, 0x30eb]),
    (0x3327, [0x30c8, 0x30f3]), (0x3328, [0x30ca, 0x30ce]), (0x3329, [0x30ce, 0x30c3, 0x30c8]),
    (0x332a, [0x30cf, 0x30a4, 0x30c4]), (0x332b, [0x30d1, 0x30fc, 0x30bb, 0x30f3, 0x30c8]),
    (0x332c, [0x30d1, 0x30fc, 0x30c4]), (0x332d, [0x30d0, 0x30fc, 0x30ec, 0x30eb]),
    (0x332e, [0x30d4, 0x30a2, 0x30b9, 0x30c8, 0x30eb]), (0x332f, [0x30d4, 0x30af, 0x30eb]),
    (0x3330, [0x30d4, 0x30b3]), (0x3331, [0x30d3, 0x30eb]),
    (0x3332, [0x30d5, 0x30a1, 0x30e9, 0x30c3, 0x30c9]), (0x3333, [0x30d5, 0x30a3, 0x30fc, 0x30c8]),
    (0x3334, [0x30d6, 0x30c3, 0x30b7, 0x30a7, 0x30eb]), (0x3335, [0x30d5, 0x30e9, 0x30f3]),
    (0x3336, [0x30d8, 0x30af, 0x30bf, 0x30fc, 0x30eb]), (0x3337, [0x30da, 0x30bd]),
    (0x3338, [0x30da, 0x30cb, 0x30d2]), (0x3339, [0x30d8, 0x30eb, 0x30c4]),
    (0x333a, [0x30da, 0x30f3, 0x30b9]), (0x333b, [0x30da, 0x30fc, 0x30b8]),
    (0x333c, [0x30d9, 0x30fc, 0x30bf]), (0x333d, [0x30dd, 0x30a4, 0x30f3, 0x30c8]),
    (0x333e, [0x30dc, 0x30eb, 0x30c8]), (0x333f, [0x30db, 0x30f3]),
    (0x3340, [0x30dd, 0x30f3, 0x30c9]), (0x3341, [0x30db, 0x30fc, 0x30eb]),
    (0x3342, [0x30db, 0x30fc, 0x30f3]), (0x3343, [0x30de, 0x30a4, 0x30af, 0x30ed]),
    (0x3344, [0x30de, 0x30a4, 0x30eb]), (0x3345, [0x30de, 0x30c3, 0x30cf]),
    (0x3346, [0x30de, 0x30eb, 0x30af]), (0x3347, [0x30de, 0x30f3, 0x30b7, 0x30e7, 0x30f3]),
    (0x3348, [0x30df, 0x30af, 0x30ed, 0x30f3]), (0x3349, [0x30df, 0x30ea]),
    (0x334a, [0x30df, 0x30ea, 0x30d0, 0x30fc, 0x30eb]), (0x334b, [0x30e1, 0x30ac]),
    (0x334c, [0x30e1, 0x30ac, 0x30c8, 0x30f3]), (0x334d, [0x30e1, 0x30fc, 0x30c8, 0x30eb]),
    (0x334e, [0x30e4, 0x30fc, 0x30c9]), (0x334f, [0x30e4, 0x30fc, 0x30eb]),
    (0x3350, [0x30e6, 0x30a2, 0x30f3]), (0x3351, [0x30ea, 0x30c3, 0x30c8, 0x30eb]),
    (0x3352, [0x30ea, 0x30e9]), (0x3353, [0x30eb, 0x30d4, 0x30fc]),
    (0x3354, [0x30eb, 0x30fc, 0x30d6, 0x30eb]), (0x3355, [0x30ec, 0x30e0]),
    (0x3356, [0x30ec, 0x30f3, 0x30c8, 0x30b2, 0x30f3]), (0x3357, [0x30ef, 0x30c3, 0x30c8]),
    (0x3358, [0x30, 0x70b9]), (0x3359, [0x31, 0x70b9]), (0x335a, [0x32, 0x70b9]),
    (0x335b, [0x33, 0x70b9]), (0x335c, [0x34, 0x70b9]), (0x335d, [0x35, 0x70b9]),
    (0x335e, [0x36, 0x70b9]), (0x335f, [0x37, 0x70b9]), (0x3360, [0x38, 0x70b9]),
    (0x3361, [0x39, 0x70b9]), (0x3362, [0x31, 0x30, 0x70b9]), (0x3363, [0x31, 0x31, 0x70b9]),
    (0x3364, [0x31, 0x32, 0x70b9]), (0x3365, [0x31, 0x33, 0x70b9]), (0x3366, [0x31, 0x34, 0x70b9]),
    (0x3367, [0x31, 0x35, 0x70b9]), (0x3368, [0x31, 0x36, 0x70b9]), (0x3369, [0x31, 0x37, 0x70b9]),
    (0x336a, [0x31, 0x38, 0x70b9]), (0x336b, [0x31, 0x39, 0x70b9]), (0x336c, [0x32, 0x30, 0x70b9]),
    (0x336d, [0x32, 0x31, 0x70b9]), (0x336e, [0x32, 0x32, 0x70b9]), (0x336f, [0x32, 0x33, 0x70b9]),
    (0x3370, [0x32, 0x34, 0x70b9]), (0x3371, [0x68, 0x70, 0x61]), (0x3372, [0x64, 0x61]),
    (0x3373, [0x61, 0x75]), (0x3374, [0x62, 0x61, 0x72]), (0x3375, [0x6f, 0x76]),
    (0x3376, [0x70, 0x63]), (0x3377, [0x64, 0x6d]), (0x3378, [0x64, 0x6d, 0x32]),
    (0x3379, [0x64, 0x6d, 0x33]), (0x337a, [0x69, 0x75]), (0x337b, [0x5e73, 0x6210]),
    (0x337c, [0x662d, 0x548c]), (0x337d, [0x5927, 0x6b63]), (0x337e, [0x660e, 0x6cbb]),
    (0x337f, [0x682a, 0x5f0f, 0x4f1a, 0x793e]), (0x3380, [0x70, 0x61]), (0x3381, [0x6e, 0x61]),
    (0x3382, [0x3bc, 0x61]), (0x3383, [0x6d, 0x61]), (0x3384, [0x6b, 0x61]),
    (0x3385, [0x6b, 0x62]), (0x3386, [0x6d, 0x62]), (0x3387, [0x67, 0x62]),
    (0x3388, [0x63, 0x61, 0x6c]), (0x3389, [0x6b, 0x63, 0x61, 0x6c]), (0x338a, [0x70, 0x66]),
    (0x338b, [0x6e, 0x66]), (0x338c, [0x3bc, 0x66]), (0x338d, [0x3bc, 0x67]),
    (0x338e, [0x6d, 0x67]), (0x338f, [0x6b, 0x67]), (0x3390, [0x68, 0x7a]),
    (0x3391, [0x6b, 0x68, 0x7a]), (0x3392, [0x6d, 0x68, 0x7a]), (0x3393, [0x67, 0x68, 0x7a]),
    (0x3394, [0x74, 0x68, 0x7a]), (0x3395, [0x3bc, 0x6c]), (0x3396, [0x6d, 0x6c]),
    (0x3397, [0x64, 0x6c]), (0x3398, [0x6b, 0x6c]), (0x3399, [0x66, 0x6d]), (0x339a, [0x6e, 0x6d]),
    (0x339b, [0x3bc, 0x6d]), (0x339c, [0x6d, 0x6d]), (0x339d, [0x63, 0x6d]),
    (0x339e, [0x6b, 0x6d]), (0x339f, [0x6d, 0x6d, 0x32]), (0x33a0, [0x63, 0x6d, 0x32]),
    (0x33a1, [0x6d, 0x32]), (0x33a2, [0x6b, 0x6d, 0x32]), (0x33a3, [0x6d, 0x6d, 0x33]),
    (0x33a4, [0x63, 0x6d, 0x33]), (0x33a5, [0x6d, 0x33]), (0x33a6, [0x6b, 0x6d, 0x33]),
    (0x33a7, [0x6d, 0x2215, 0x73]), (0x33a8, [0x6d, 0x2215, 0x73, 0x32]), (0x33a9, [0x70, 0x61]),
    (0x33aa, [0x6b, 0x70, 0x61]), (0x33ab, [0x6d, 0x70, 0x61]), (0x33ac, [0x67, 0x70, 0x61]),
    (0x33ad, [0x72, 0x61, 0x64]), (0x33ae, [0x72, 0x61, 0x64, 0x2215, 0x73]),
    (0x33af, [0x72, 0x61, 0x64, 0x2215, 0x73, 0x32]), (0x33b0, [0x70, 0x73]),
    (0x33b1, [0x6e, 0x73]), (0x33b2, [0x3bc, 0x73]), (0x33b3, [0x6d, 0x73]),
    (0x33b4, [0x70, 0x76]), (0x33b5, [0x6e, 0x76]), (0x33b6, [0x3bc, 0x76]),
    (0x33b7, [0x6d, 0x76]), (0x33b8, [0x6b, 0x76]), (0x33b9, [0x6d, 0x76]), (0x33ba, [0x70, 0x77]),
    (0x33bb, [0x6e, 0x77]), (0x33bc, [0x3bc, 0x77]), (0x33bd, [0x6d, 0x77]),
    (0x33be, [0x6b, 0x77]), (0x33bf, [0x6d, 0x77]), (0x33c0, [0x6b, 0x3c9]),
    (0x33c1, [0x6d, 0x3c9]), (0x33c3, [0x62, 0x71]), (0x33c4, [0x63, 0x63]),
    (0x33c5, [0x63, 0x64]), (0x33c6, [0x63, 0x2215, 0x6b, 0x67]), (0x33c8, [0x64, 0x62]),
    (0x33c9, [0x67, 0x79]), (0x33ca, [0x68, 0x61]), (0x33cb, [0x68, 0x70]), (0x33cc, [0x69, 0x6e]),
    (0x33cd, [0x6b, 0x6b]), (0x33ce, [0x6b, 0x6d]), (0x33cf, [0x6b, 0x74]), (0x33d0, [0x6c, 0x6d]),
    (0x33d1, [0x6c, 0x6e]), (0x33d2, [0x6c, 0x6f, 0x67]), (0x33d3, [0x6c, 0x78]),
    (0x33d4, [0x6d, 0x62]), (0x33d5, [0x6d, 0x69, 0x6c]), (0x33d6, [0x6d, 0x6f, 0x6c]),
    (0x33d7, [0x70, 0x68]), (0x33d9, [0x70, 0x70, 0x6d]), (0x33da, [0x70, 0x72]),
    (0x33db, [0x73, 0x72]), (0x33dc, [0x73, 0x76]), (0x33dd, [0x77, 0x62]),
    (0x33de, [0x76, 0x2215, 0x6d]), (0x33df, [0x61, 0x2215, 0x6d]), (0x33e0, [0x31, 0x65e5]),
    (0x33e1, [0x32, 0x65e5]), (0x33e2, [0x33, 0x65e5]), (0x33e3, [0x34, 0x65e5]),
    (0x33e4, [0x35, 0x65e5]), (0x33e5, [0x36, 0x65e5]), (0x33e6, [0x37, 0x65e5]),
    (0x33e7, [0x38, 0x65e5]), (0x33e8, [0x39, 0x65e5]), (0x33e9, [0x31, 0x30, 0x65e5]),
    (0x33ea, [0x31, 0x31, 0x65e5]), (0x33eb, [0x31, 0x32, 0x65e5]), (0x33ec, [0x31, 0x33, 0x65e5]),
    (0x33ed, [0x31, 0x34, 0x65e5]), (0x33ee, [0x31, 0x35, 0x65e5]), (0x33ef, [0x31, 0x36, 0x65e5]),
    (0x33f0, [0x31, 0x37, 0x65e5]), (0x33f1, [0x31, 0x38, 0x65e5]), (0x33f2, [0x31, 0x39, 0x65e5]),
    (0x33f3, [0x32, 0x30, 0x65e5]), (0x33f4, [0x32, 0x31, 0x65e5]), (0x33f5, [0x32, 0x32, 0x65e5]),
    (0x33f6, [0x32, 0x33, 0x65e5]), (0x33f7, [0x32, 0x34, 0x65e5]), (0x33f8, [0x32, 0x35, 0x65e5]),
    (0x33f9, [0x32, 0x36, 0x65e5]), (0x33fa, [0x32, 0x37, 0x65e5]), (0x33fb, [0x32, 0x38, 0x65e5]),
    (0x33fc, [0x32, 0x39, 0x65e5]), (0x33fd, [0x33, 0x30, 0x65e5]), (0x33fe, [0x33, 0x31, 0x65e5]),
    (0x33ff, [0x67, 0x61, 0x6c])]

def ideographRuns : Array (Nat × Nat × Nat × Nat) := #[
  (0xf900, 0xf900, 1, 0x8c48), (0xf901, 0xf901, 1, 0x66f4), (0xf902, 0xf902, 1, 0x8eca),
    (0xf903, 0xf903, 1, 0x8cc8), (0xf904, 0xf904, 1, 0x6ed1), (0xf905, 0xf905, 1, 0x4e32),
    (0xf906, 0xf906, 1, 0x53e5), (0xf907, 0xf907, 1, 0x9f9c), (0xf908, 0xf908, 1, 0x9f9c),
    (0xf909, 0xf909, 1, 0x5951), (0xf90a, 0xf90a, 1, 0x91d1), (0xf90b, 0xf90b, 1, 0x5587),
    (0xf90c, 0xf90c, 1, 0x5948), (0xf90d, 0xf90d, 1, 0x61f6), (0xf90e, 0xf90e, 1, 0x7669),
    (0xf90f, 0xf90f, 1, 0x7f85), (0xf910, 0xf910, 1, 0x863f), (0xf911, 0xf911, 1, 0x87ba),
    (0xf912, 0xf912, 1, 0x88f8), (0xf913, 0xf913, 1, 0x908f), (0xf914, 0xf914, 1, 0x6a02),
    (0xf915, 0xf915, 1, 0x6d1b), (0xf916, 0xf916, 1, 0x70d9), (0xf917, 0xf917, 1, 0x73de),
    (0xf918, 0xf918, 1, 0x843d), (0xf919, 0xf919, 1, 0x916a), (0xf91a, 0xf91a, 1, 0x99f1),
    (0xf91b, 0xf91b, 1, 0x4e82), (0xf91c, 0xf91c, 1, 0x5375), (0xf91d, 0xf91d, 1, 0x6b04),
    (0xf91e, 0xf91e, 1, 0x721b), (0xf91f, 0xf91f, 1, 0x862d), (0xf920, 0xf920, 1, 0x9e1e),
    (0xf921, 0xf921, 1, 0x5d50), (0xf922, 0xf922, 1, 0x6feb), (0xf923, 0xf923, 1, 0x85cd),
    (0xf924, 0xf924, 1, 0x8964), (0xf925, 0xf925, 1, 0x62c9), (0xf926, 0xf926, 1, 0x81d8),
    (0xf927, 0xf927, 1, 0x881f), (0xf928, 0xf928, 1, 0x5eca), (0xf929, 0xf929, 1, 0x6717),
    (0xf92a, 0xf92a, 1, 0x6d6a), (0xf92b, 0xf92b, 1, 0x72fc), (0xf92c, 0xf92c, 1, 0x90ce),
    (0xf92d, 0xf92d, 1, 0x4f86), (0xf92e, 0xf92e, 1, 0x51b7), (0xf92f, 0xf92f, 1, 0x52de),
    (0xf930, 0xf930, 1, 0x64c4), (0xf931, 0xf931, 1, 0x6ad3), (0xf932, 0xf932, 1, 0x7210),
    (0xf933, 0xf933, 1, 0x76e7), (0xf934, 0xf934, 1, 0x8001), (0xf935, 0xf935, 1, 0x8606),
    (0xf936, 0xf936, 1, 0x865c), (0xf937, 0xf937, 1, 0x8def), (0xf938, 0xf938, 1, 0x9732),
    (0xf939, 0xf939, 1, 0x9b6f), (0xf93a, 0xf93a, 1, 0x9dfa), (0xf93b, 0xf93b, 1, 0x788c),
    (0xf93c, 0xf93c, 1, 0x797f), (0xf93d, 0xf93d, 1, 0x7da0), (0xf93e, 0xf93e, 1, 0x83c9),
    (0xf93f, 0xf93f, 1, 0x9304), (0xf940, 0xf940, 1, 0x9e7f), (0xf941, 0xf941, 1, 0x8ad6),
    (0xf942, 0xf942, 1, 0x58df), (0xf943, 0xf943, 1, 0x5f04), (0xf944, 0xf944, 1, 0x7c60),
    (0xf945, 0xf945, 1, 0x807e), (0xf946, 0xf946, 1, 0x7262), (0xf947, 0xf947, 1, 0x78ca),
    (0xf948, 0xf948, 1, 0x8cc2), (0xf949, 0xf949, 1, 0x96f7), (0xf94a, 0xf94a, 1, 0x58d8),
    (0xf94b, 0xf94b, 1, 0x5c62), (0xf94c, 0xf94c, 1, 0x6a13), (0xf94d, 0xf94d, 1, 0x6dda),
    (0xf94e, 0xf94e, 1, 0x6f0f), (0xf94f, 0xf94f, 1, 0x7d2f), (0xf950, 0xf950, 1, 0x7e37),
    (0xf951, 0xf951, 1, 0x964b), (0xf952, 0xf952, 1, 0x52d2), (0xf953, 0xf953, 1, 0x808b),
    (0xf954, 0xf954, 1, 0x51dc), (0xf955, 0xf955, 1, 0x51cc), (0xf956, 0xf956, 1, 0x7a1c),
    (0xf957, 0xf957, 1, 0x7dbe), (0xf958, 0xf958, 1, 0x83f1), (0xf959, 0xf959, 1, 0x9675),
    (0xf95a, 0xf95a, 1, 0x8b80), (0xf95b, 0xf95b, 1, 0x62cf), (0xf95c, 0xf95c, 1, 0x6a02),
    (0xf95d, 0xf95d, 1, 0x8afe), (0xf95e, 0xf95e, 1, 0x4e39), (0xf95f, 0xf95f, 1, 0x5be7),
    (0xf960, 0xf960, 1, 0x6012), (0xf961, 0xf961, 1, 0x7387), (0xf962, 0xf962, 1, 0x7570),
    (0xf963, 0xf963, 1, 0x5317), (0xf964, 0xf964, 1, 0x78fb), (0xf965, 0xf965, 1, 0x4fbf),
    (0xf966, 0xf966, 1, 0x5fa9), (0xf967, 0xf967, 1, 0x4e0d), (0xf968, 0xf968, 1, 0x6ccc),
    (0xf969, 0xf969, 1, 0x6578), (0xf96a, 0xf96a, 1, 0x7d22), (0xf96b, 0xf96b, 1, 0x53c3),
    (0xf96c, 0xf96c, 1, 0x585e), (0xf96d, 0xf96d, 1, 0x7701), (0xf96e, 0xf96e, 1, 0x8449),
    (0xf96f, 0xf96f, 1, 0x8aaa), (0xf970, 0xf970, 1, 0x6bba), (0xf971, 0xf971, 1, 0x8fb0),
    (0xf972, 0xf972, 1, 0x6c88), (0xf973, 0xf973, 1, 0x62fe), (0xf974, 0xf974, 1, 0x82e5),
    (0xf975, 0xf975, 1, 0x63a0), (0xf976, 0xf976, 1, 0x7565), (0xf977, 0xf977, 1, 0x4eae),
    (0xf978, 0xf978, 1, 0x5169), (0xf979, 0xf979, 1, 0x51c9), (0xf97a, 0xf97a, 1, 0x6881),
    (0xf97b, 0xf97b, 1, 0x7ce7), (0xf97c, 0xf97c, 1, 0x826f), (0xf97d, 0xf97d, 1, 0x8ad2),
    (0xf97e, 0xf97e, 1, 0x91cf), (0xf97f, 0xf97f, 1, 0x52f5), (0xf980, 0xf980, 1, 0x5442),
    (0xf981, 0xf981, 1, 0x5973), (0xf982, 0xf982, 1, 0x5eec), (0xf983, 0xf983, 1, 0x65c5),
    (0xf984, 0xf984, 1, 0x6ffe), (0xf985, 0xf985, 1, 0x792a), (0xf986, 0xf986, 1, 0x95ad),
    (0xf987, 0xf987, 1, 0x9a6a), (0xf988, 0xf988, 1, 0x9e97), (0xf989, 0xf989, 1, 0x9ece),
    (0xf98a, 0xf98a, 1, 0x529b), (0xf98b, 0xf98b, 1, 0x66c6), (0xf98c, 0xf98c, 1, 0x6b77),
    (0xf98d, 0xf98d, 1, 0x8f62), (0xf98e, 0xf98e, 1, 0x5e74), (0xf98f, 0xf98f, 1, 0x6190),
    (0xf990, 0xf990, 1, 0x6200), (0xf991, 0xf991, 1, 0x649a), (0xf992, 0xf992, 1, 0x6f23),
    (0xf993, 0xf993, 1, 0x7149), (0xf994, 0xf994, 1, 0x7489), (0xf995, 0xf995, 1, 0x79ca),
    (0xf996, 0xf996, 1, 0x7df4), (0xf997, 0xf997, 1, 0x806f), (0xf998, 0xf998, 1, 0x8f26),
    (0xf999, 0xf999, 1, 0x84ee), (0xf99a, 0xf99a, 1, 0x9023), (0xf99b, 0xf99b, 1, 0x934a),
    (0xf99c, 0xf99c, 1, 0x5217), (0xf99d, 0xf99d, 1, 0x52a3), (0xf99e, 0xf99e, 1, 0x54bd),
    (0xf99f, 0xf99f, 1, 0x70c8), (0xf9a0, 0xf9a0, 1, 0x88c2), (0xf9a1, 0xf9a1, 1, 0x8aaa),
    (0xf9a2, 0xf9a2, 1, 0x5ec9), (0xf9a3, 0xf9a3, 1, 0x5ff5), (0xf9a4, 0xf9a4, 1, 0x637b),
    (0xf9a5, 0xf9a5, 1, 0x6bae), (0xf9a6, 0xf9a6, 1, 0x7c3e), (0xf9a7, 0xf9a7, 1, 0x7375),
    (0xf9a8, 0xf9a8, 1, 0x4ee4), (0xf9a9, 0xf9a9, 1, 0x56f9), (0xf9aa, 0xf9aa, 1, 0x5be7),
    (0xf9ab, 0xf9ab, 1, 0x5dba), (0xf9ac, 0xf9ac, 1, 0x601c), (0xf9ad, 0xf9ad, 1, 0x73b2),
    (0xf9ae, 0xf9ae, 1, 0x7469), (0xf9af, 0xf9af, 1, 0x7f9a), (0xf9b0, 0xf9b0, 1, 0x8046),
    (0xf9b1, 0xf9b1, 1, 0x9234), (0xf9b2, 0xf9b2, 1, 0x96f6), (0xf9b3, 0xf9b3, 1, 0x9748),
    (0xf9b4, 0xf9b4, 1, 0x9818), (0xf9b5, 0xf9b5, 1, 0x4f8b), (0xf9b6, 0xf9b6, 1, 0x79ae),
    (0xf9b7, 0xf9b7, 1, 0x91b4), (0xf9b8, 0xf9b8, 1, 0x96b8), (0xf9b9, 0xf9b9, 1, 0x60e1),
    (0xf9ba, 0xf9ba, 1, 0x4e86), (0xf9bb, 0xf9bb, 1, 0x50da), (0xf9bc, 0xf9bc, 1, 0x5bee),
    (0xf9bd, 0xf9bd, 1, 0x5c3f), (0xf9be, 0xf9be, 1, 0x6599), (0xf9bf, 0xf9bf, 1, 0x6a02),
    (0xf9c0, 0xf9c0, 1, 0x71ce), (0xf9c1, 0xf9c1, 1, 0x7642), (0xf9c2, 0xf9c2, 1, 0x84fc),
    (0xf9c3, 0xf9c3, 1, 0x907c), (0xf9c4, 0xf9c4, 1, 0x9f8d), (0xf9c5, 0xf9c5, 1, 0x6688),
    (0xf9c6, 0xf9c6, 1, 0x962e), (0xf9c7, 0xf9c7, 1, 0x5289), (0xf9c8, 0xf9c8, 1, 0x677b),
    (0xf9c9, 0xf9c9, 1, 0x67f3), (0xf9ca, 0xf9ca, 1, 0x6d41), (0xf9cb, 0xf9cb, 1, 0x6e9c),
    (0xf9cc, 0xf9cc, 1, 0x7409), (0xf9cd, 0xf9cd, 1, 0x7559), (0xf9ce, 0xf9ce, 1, 0x786b),
    (0xf9cf, 0xf9cf, 1, 0x7d10), (0xf9d0, 0xf9d0, 1, 0x985e), (0xf9d1, 0xf9d1, 1, 0x516d),
    (0xf9d2, 0xf9d2, 1, 0x622e), (0xf9d3, 0xf9d3, 1, 0x9678), (0xf9d4, 0xf9d4, 1, 0x502b),
    (0xf9d5, 0xf9d5, 1, 0x5d19), (0xf9d6, 0xf9d6, 1, 0x6dea), (0xf9d7, 0xf9d7, 1, 0x8f2a),
    (0xf9d8, 0xf9d8, 1, 0x5f8b), (0xf9d9, 0xf9d9, 1, 0x6144), (0xf9da, 0xf9da, 1, 0x6817),
    (0xf9db, 0xf9db, 1, 0x7387), (0xf9dc, 0xf9dc, 1, 0x9686), (0xf9dd, 0xf9dd, 1, 0x5229),
    (0xf9de, 0xf9de, 1, 0x540f), (0xf9df, 0xf9df, 1, 0x5c65), (0xf9e0, 0xf9e0, 1, 0x6613),
    (0xf9e1, 0xf9e1, 1, 0x674e), (0xf9e2, 0xf9e2, 1, 0x68a8), (0xf9e3, 0xf9e3, 1, 0x6ce5),
    (0xf9e4, 0xf9e4, 1, 0x7406), (0xf9e5, 0xf9e5, 1, 0x75e2), (0xf9e6, 0xf9e6, 1, 0x7f79),
    (0xf9e7, 0xf9e7, 1, 0x88cf), (0xf9e8, 0xf9e8, 1, 0x88e1), (0xf9e9, 0xf9e9, 1, 0x91cc),
    (0xf9ea, 0xf9ea, 1, 0x96e2), (0xf9eb, 0xf9eb, 1, 0x533f), (0xf9ec, 0xf9ec, 1, 0x6eba),
    (0xf9ed, 0xf9ed, 1, 0x541d), (0xf9ee, 0xf9ee, 1, 0x71d0), (0xf9ef, 0xf9ef, 1, 0x7498),
    (0xf9f0, 0xf9f0, 1, 0x85fa), (0xf9f1, 0xf9f1, 1, 0x96a3), (0xf9f2, 0xf9f2, 1, 0x9c57),
    (0xf9f3, 0xf9f3, 1, 0x9e9f), (0xf9f4, 0xf9f4, 1, 0x6797), (0xf9f5, 0xf9f5, 1, 0x6dcb),
    (0xf9f6, 0xf9f6, 1, 0x81e8), (0xf9f7, 0xf9f7, 1, 0x7acb), (0xf9f8, 0xf9f8, 1, 0x7b20),
    (0xf9f9, 0xf9f9, 1, 0x7c92), (0xf9fa, 0xf9fa, 1, 0x72c0), (0xf9fb, 0xf9fb, 1, 0x7099),
    (0xf9fc, 0xf9fc, 1, 0x8b58), (0xf9fd, 0xf9fd, 1, 0x4ec0), (0xf9fe, 0xf9fe, 1, 0x8336),
    (0xf9ff, 0xf9ff, 1, 0x523a), (0xfa00, 0xfa00, 1, 0x5207), (0xfa01, 0xfa01, 1, 0x5ea6),
    (0xfa02, 0xfa02, 1, 0x62d3), (0xfa03, 0xfa03, 1, 0x7cd6), (0xfa04, 0xfa04, 1, 0x5b85),
    (0xfa05, 0xfa05, 1, 0x6d1e), (0xfa06, 0xfa06, 1, 0x66b4), (0xfa07, 0xfa07, 1, 0x8f3b),
    (0xfa08, 0xfa08, 1, 0x884c), (0xfa09, 0xfa09, 1, 0x964d), (0xfa0a, 0xfa0a, 1, 0x898b),
    (0xfa0b, 0xfa0b, 1, 0x5ed3), (0xfa0c, 0xfa0c, 1, 0x5140), (0xfa0d, 0xfa0d, 1, 0x55c0),
    (0xfa10, 0xfa10, 1, 0x585a), (0xfa12, 0xfa12, 1, 0x6674), (0xfa15, 0xfa15, 1, 0x51de),
    (0xfa16, 0xfa16, 1, 0x732a), (0xfa17, 0xfa17, 1, 0x76ca), (0xfa18, 0xfa18, 1, 0x793c),
    (0xfa19, 0xfa19, 1, 0x795e), (0xfa1a, 0xfa1a, 1, 0x7965), (0xfa1b, 0xfa1b, 1, 0x798f),
    (0xfa1c, 0xfa1c, 1, 0x9756), (0xfa1d, 0xfa1d, 1, 0x7cbe), (0xfa1e, 0xfa1e, 1, 0x7fbd),
    (0xfa20, 0xfa20, 1, 0x8612), (0xfa22, 0xfa22, 1, 0x8af8), (0xfa25, 0xfa25, 1, 0x9038),
    (0xfa26, 0xfa26, 1, 0x90fd), (0xfa2a, 0xfa2a, 1, 0x98ef), (0xfa2b, 0xfa2b, 1, 0x98fc),
    (0xfa2c, 0xfa2c, 1, 0x9928), (0xfa2d, 0xfa2d, 1, 0x9db4), (0xfa2e, 0xfa2e, 1, 0x90de),
    (0xfa2f, 0xfa2f, 1, 0x96b7), (0xfa30, 0xfa30, 1, 0x4fae), (0xfa31, 0xfa31, 1, 0x50e7),
    (0xfa32, 0xfa32, 1, 0x514d), (0xfa33, 0xfa33, 1, 0x52c9), (0xfa34, 0xfa34, 1, 0x52e4),
    (0xfa35, 0xfa35, 1, 0x5351), (0xfa36, 0xfa36, 1, 0x559d), (0xfa37, 0xfa37, 1, 0x5606),
    (0xfa38, 0xfa38, 1, 0x5668), (0xfa39, 0xfa39, 1, 0x5840), (0xfa3a, 0xfa3a, 1, 0x58a8),
    (0xfa3b, 0xfa3b, 1, 0x5c64), (0xfa3c, 0xfa3c, 1, 0x5c6e), (0xfa3d, 0xfa3d, 1, 0x6094),
    (0xfa3e, 0xfa3e, 1, 0x6168), (0xfa3f, 0xfa3f, 1, 0x618e), (0xfa40, 0xfa40, 1, 0x61f2),
    (0xfa41, 0xfa41, 1, 0x654f), (0xfa42, 0xfa42, 1, 0x65e2), (0xfa43, 0xfa43, 1, 0x6691),
    (0xfa44, 0xfa44, 1, 0x6885), (0xfa45, 0xfa45, 1, 0x6d77), (0xfa46, 0xfa46, 1, 0x6e1a),
    (0xfa47, 0xfa47, 1, 0x6f22), (0xfa48, 0xfa48, 1, 0x716e), (0xfa49, 0xfa49, 1, 0x722b),
    (0xfa4a, 0xfa4a, 1, 0x7422), (0xfa4b, 0xfa4b, 1, 0x7891), (0xfa4c, 0xfa4c, 1, 0x793e),
    (0xfa4d, 0xfa4d, 1, 0x7949), (0xfa4e, 0xfa4e, 1, 0x7948), (0xfa4f, 0xfa4f, 1, 0x7950),
    (0xfa50, 0xfa50, 1, 0x7956), (0xfa51, 0xfa51, 1, 0x795d), (0xfa52, 0xfa53, 1, 0x798d),
    (0xfa54, 0xfa54, 1, 0x7a40), (0xfa55, 0xfa55, 1, 0x7a81), (0xfa56, 0xfa56, 1, 0x7bc0),
    (0xfa57, 0xfa57, 1, 0x7df4), (0xfa58, 0xfa58, 1, 0x7e09), (0xfa59, 0xfa59, 1, 0x7e41),
    (0xfa5a, 0xfa5a, 1, 0x7f72), (0xfa5b, 0xfa5b, 1, 0x8005), (0xfa5c, 0xfa5c, 1, 0x81ed),
    (0xfa5d, 0xfa5d, 1, 0x8279), (0xfa5e, 0xfa5e, 1, 0x8279), (0xfa5f, 0xfa5f, 1, 0x8457),
    (0xfa60, 0xfa60, 1, 0x8910), (0xfa61, 0xfa61, 1, 0x8996), (0xfa62, 0xfa62, 1, 0x8b01),
    (0xfa63, 0xfa63, 1, 0x8b39), (0xfa64, 0xfa64, 1, 0x8cd3), (0xfa65, 0xfa65, 1, 0x8d08),
    (0xfa66, 0xfa66, 1, 0x8fb6), (0xfa67, 0xfa67, 1, 0x9038), (0xfa68, 0xfa68, 1, 0x96e3),
    (0xfa69, 0xfa69, 1, 0x97ff), (0xfa6a, 0xfa6a, 1, 0x983b), (0xfa6b, 0xfa6b, 1, 0x6075),
    (0xfa6c, 0xfa6c, 1, 0x242ee), (0xfa6d, 0xfa6d, 1, 0x8218), (0xfa70, 0xfa70, 1, 0x4e26),
    (0xfa71, 0xfa71, 1, 0x51b5), (0xfa72, 0xfa72, 1, 0x5168), (0xfa73, 0xfa73, 1, 0x4f80),
    (0xfa74, 0xfa74, 1, 0x5145), (0xfa75, 0xfa75, 1, 0x5180), (0xfa76, 0xfa76, 1, 0x52c7),
    (0xfa77, 0xfa77, 1, 0x52fa), (0xfa78, 0xfa78, 1, 0x559d), (0xfa79, 0xfa79, 1, 0x5555),
    (0xfa7a, 0xfa7a, 1, 0x5599), (0xfa7b, 0xfa7b, 1, 0x55e2), (0xfa7c, 0xfa7c, 1, 0x585a),
    (0xfa7d, 0xfa7d, 1, 0x58b3), (0xfa7e, 0xfa7e, 1, 0x5944), (0xfa7f, 0xfa7f, 1, 0x5954),
    (0xfa80, 0xfa80, 1, 0x5a62), (0xfa81, 0xfa81, 1, 0x5b28), (0xfa82, 0xfa82, 1, 0x5ed2),
    (0xfa83, 0xfa83, 1, 0x5ed9), (0xfa84, 0xfa84, 1, 0x5f69), (0xfa85, 0xfa85, 1, 0x5fad),
    (0xfa86, 0xfa86, 1, 0x60d8), (0xfa87, 0xfa87, 1, 0x614e), (0xfa88, 0xfa88, 1, 0x6108),
    (0xfa89, 0xfa89, 1, 0x618e), (0xfa8a, 0xfa8a, 1, 0x6160), (0xfa8b, 0xfa8b, 1, 0x61f2),
    (0xfa8c, 0xfa8c, 1, 0x6234), (0xfa8d, 0xfa8d, 1, 0x63c4), (0xfa8e, 0xfa8e, 1, 0x641c),
    (0xfa8f, 0xfa8f, 1, 0x6452), (0xfa90, 0xfa90, 1, 0x6556), (0xfa91, 0xfa91, 1, 0x6674),
    (0xfa92, 0xfa92, 1, 0x6717), (0xfa93, 0xfa93, 1, 0x671b), (0xfa94, 0xfa94, 1, 0x6756),
    (0xfa95, 0xfa95, 1, 0x6b79), (0xfa96, 0xfa96, 1, 0x6bba), (0xfa97, 0xfa97, 1, 0x6d41),
    (0xfa98, 0xfa98, 1, 0x6edb), (0xfa99, 0xfa99, 1, 0x6ecb), (0xfa9a, 0xfa9a, 1, 0x6f22),
    (0xfa9b, 0xfa9b, 1, 0x701e), (0xfa9c, 0xfa9c, 1, 0x716e), (0xfa9d, 0xfa9d, 1, 0x77a7),
    (0xfa9e, 0xfa9e, 1, 0x7235), (0xfa9f, 0xfa9f, 1, 0x72af), (0xfaa0, 0xfaa0, 1, 0x732a),
    (0xfaa1, 0xfaa1, 1, 0x7471), (0xfaa2, 0xfaa2, 1, 0x7506), (0xfaa3, 0xfaa3, 1, 0x753b),
    (0xfaa4, 0xfaa4, 1, 0x761d), (0xfaa5, 0xfaa5, 1, 0x761f), (0xfaa6, 0xfaa6, 1, 0x76ca),
    (0xfaa7, 0xfaa7, 1, 0x76db), (0xfaa8, 0xfaa8, 1, 0x76f4), (0xfaa9, 0xfaa9, 1, 0x774a),
    (0xfaaa, 0xfaaa, 1, 0x7740), (0xfaab, 0xfaab, 1, 0x78cc), (0xfaac, 0xfaac, 1, 0x7ab1),
    (0xfaad, 0xfaad, 1, 0x7bc0), (0xfaae, 0xfaae, 1, 0x7c7b), (0xfaaf, 0xfaaf, 1, 0x7d5b),
    (0xfab0, 0xfab0, 1, 0x7df4), (0xfab1, 0xfab1, 1, 0x7f3e), (0xfab2, 0xfab2, 1, 0x8005),
    (0xfab3, 0xfab3, 1, 0x8352), (0xfab4, 0xfab4, 1, 0x83ef), (0xfab5, 0xfab5, 1, 0x8779),
    (0xfab6, 0xfab6, 1, 0x8941), (0xfab7, 0xfab7, 1, 0x8986), (0xfab8, 0xfab8, 1, 0x8996),
    (0xfab9, 0xfab9, 1, 0x8abf), (0xfaba, 0xfaba, 1, 0x8af8), (0xfabb, 0xfabb, 1, 0x8acb),
    (0xfabc, 0xfabc, 1, 0x8b01), (0xfabd, 0xfabd, 1, 0x8afe), (0xfabe, 0xfabe, 1, 0x8aed),
    (0xfabf, 0xfabf, 1, 0x8b39), (0xfac0, 0xfac0, 1, 0x8b8a), (0xfac1, 0xfac1, 1, 0x8d08),
    (0xfac2, 0xfac2, 1, 0x8f38), (0xfac3, 0xfac3, 1, 0x9072), (0xfac4, 0xfac4, 1, 0x9199),
    (0xfac5, 0xfac5, 1, 0x9276), (0xfac6, 0xfac6, 1, 0x967c), (0xfac7, 0xfac7, 1, 0x96e3),
    (0xfac8, 0xfac8, 1, 0x9756), (0xfac9, 0xfac9, 1, 0x97db), (0xfaca, 0xfaca, 1, 0x97ff),
    (0xfacb, 0xfacb, 1, 0x980b), (0xfacc, 0xfacc, 1, 0x983b), (0xfacd, 0xfacd, 1, 0x9b12),
    (0xface, 0xface, 1, 0x9f9c), (0xfacf, 0xfacf, 1, 0x2284a), (0xfad0, 0xfad0, 1, 0x22844),
    (0xfad1, 0xfad1, 1, 0x233d5), (0xfad2, 0xfad2, 1, 0x3b9d), (0xfad3, 0xfad3, 1, 0x4018),
    (0xfad4, 0xfad4, 1, 0x4039), (0xfad5, 0xfad5, 1, 0x25249), (0xfad6, 0xfad6, 1, 0x25cd0),
    (0xfad7, 0xfad7, 1, 0x27ed3), (0xfad8, 0xfad8, 1, 0x9f43), (0xfad9, 0xfad9, 1, 0x9f8e)]

def supplementRuns : Array (Nat × Nat × Nat × Nat) := #[
  (0x2f800, 0x2f800, 1, 0x4e3d), (0x2f801, 0x2f801, 1, 0x4e38), (0x2f802, 0x2f802, 1, 0x4e41),
    (0x2f803, 0x2f803, 1, 0x20122), (0x2f804, 0x2f804, 1, 0x4f60), (0x2f805, 0x2f805, 1, 0x4fae),
    (0x2f806, 0x2f806, 1, 0x4fbb), (0x2f807, 0x2f807, 1, 0x5002), (0x2f808, 0x2f808, 1, 0x507a),
    (0x2f809, 0x2f809, 1, 0x5099), (0x2f80a, 0x2f80a, 1, 0x50e7), (0x2f80b, 0x2f80b, 1, 0x50cf),
    (0x2f80c, 0x2f80c, 1, 0x349e), (0x2f80d, 0x2f80d, 1, 0x2063a), (0x2f80e, 0x2f80e, 1, 0x514d),
    (0x2f80f, 0x2f80f, 1, 0x5154), (0x2f810, 0x2f810, 1, 0x5164), (0x2f811, 0x2f811, 1, 0x5177),
    (0x2f812, 0x2f812, 1, 0x2051c), (0x2f813, 0x2f813, 1, 0x34b9), (0x2f814, 0x2f814, 1, 0x5167),
    (0x2f815, 0x2f815, 1, 0x518d), (0x2f816, 0x2f816, 1, 0x2054b), (0x2f817, 0x2f817, 1, 0x5197),
    (0x2f818, 0x2f818, 1, 0x51a4), (0x2f819, 0x2f819, 1, 0x4ecc), (0x2f81a, 0x2f81a, 1, 0x51ac),
    (0x2f81b, 0x2f81b, 1, 0x51b5), (0x2f81c, 0x2f81c, 1, 0x291df), (0x2f81d, 0x2f81d, 1, 0x51f5),
    (0x2f81e, 0x2f81e, 1, 0x5203), (0x2f81f, 0x2f81f, 1, 0x34df), (0x2f820, 0x2f820, 1, 0x523b),
    (0x2f821, 0x2f821, 1, 0x5246), (0x2f822, 0x2f822, 1, 0x5272), (0x2f823, 0x2f823, 1, 0x5277),
    (0x2f824, 0x2f824, 1, 0x3515), (0x2f825, 0x2f825, 1, 0x52c7), (0x2f826, 0x2f826, 1, 0x52c9),
    (0x2f827, 0x2f827, 1, 0x52e4), (0x2f828, 0x2f828, 1, 0x52fa), (0x2f829, 0x2f82a, 1, 0x5305),
    (0x2f82b, 0x2f82b, 1, 0x5317), (0x2f82c, 0x2f82c, 1, 0x5349), (0x2f82d, 0x2f82d, 1, 0x5351),
    (0x2f82e, 0x2f82e, 1, 0x535a), (0x2f82f, 0x2f82f, 1, 0x5373), (0x2f830, 0x2f830, 1, 0x537d),
    (0x2f831, 0x2f831, 1, 0x537f), (0x2f832, 0x2f832, 1, 0x537f), (0x2f833, 0x2f833, 1, 0x537f),
    (0x2f834, 0x2f834, 1, 0x20a2c), (0x2f835, 0x2f835, 1, 0x7070), (0x2f836, 0x2f836, 1, 0x53ca),
    (0x2f837, 0x2f837, 1, 0x53df), (0x2f838, 0x2f838, 1, 0x20b63), (0x2f839, 0x2f839, 1, 0x53eb),
    (0x2f83a, 0x2f83a, 1, 0x53f1), (0x2f83b, 0x2f83b, 1, 0x5406), (0x2f83c, 0x2f83c, 1, 0x549e),
    (0x2f83d, 0x2f83d, 1, 0x5438), (0x2f83e, 0x2f83e, 1, 0x5448), (0x2f83f, 0x2f83f, 1, 0x5468),
    (0x2f840, 0x2f840, 1, 0x54a2), (0x2f841, 0x2f841, 1, 0x54f6), (0x2f842, 0x2f842, 1, 0x5510),
    (0x2f843, 0x2f843, 1, 0x5553), (0x2f844, 0x2f844, 1, 0x5563), (0x2f845, 0x2f845, 1, 0x5584),
    (0x2f846, 0x2f846, 1, 0x5584), (0x2f847, 0x2f847, 1, 0x5599), (0x2f848, 0x2f848, 1, 0x55ab),
    (0x2f849, 0x2f849, 1, 0x55b3), (0x2f84a, 0x2f84a, 1, 0x55c2), (0x2f84b, 0x2f84b, 1, 0x5716),
    (0x2f84c, 0x2f84c, 1, 0x5606), (0x2f84d, 0x2f84d, 1, 0x5717), (0x2f84e, 0x2f84e, 1, 0x5651),
    (0x2f84f, 0x2f84f, 1, 0x5674), (0x2f850, 0x2f850, 1, 0x5207), (0x2f851, 0x2f851, 1, 0x58ee),
    (0x2f852, 0x2f852, 1, 0x57ce), (0x2f853, 0x2f853, 1, 0x57f4), (0x2f854, 0x2f854, 1, 0x580d),
    (0x2f855, 0x2f855, 1, 0x578b), (0x2f856, 0x2f856, 1, 0x5832), (0x2f857, 0x2f857, 1, 0x5831),
    (0x2f858, 0x2f858, 1, 0x58ac), (0x2f859, 0x2f859, 1, 0x214e4), (0x2f85a, 0x2f85a, 1, 0x58f2),
    (0x2f85b, 0x2f85b, 1, 0x58f7), (0x2f85c, 0x2f85c, 1, 0x5906), (0x2f85d, 0x2f85d, 1, 0x591a),
    (0x2f85e, 0x2f85e, 1, 0x5922), (0x2f85f, 0x2f85f, 1, 0x5962), (0x2f860, 0x2f860, 1, 0x216a8),
    (0x2f861, 0x2f861, 1, 0x216ea), (0x2f862, 0x2f862, 1, 0x59ec), (0x2f863, 0x2f863, 1, 0x5a1b),
    (0x2f864, 0x2f864, 1, 0x5a27), (0x2f865, 0x2f865, 1, 0x59d8), (0x2f866, 0x2f866, 1, 0x5a66),
    (0x2f867, 0x2f867, 1, 0x36ee), (0x2f868, 0x2f868, 1, 0x36fc), (0x2f869, 0x2f869, 1, 0x5b08),
    (0x2f86a, 0x2f86a, 1, 0x5b3e), (0x2f86b, 0x2f86b, 1, 0x5b3e), (0x2f86c, 0x2f86c, 1, 0x219c8),
    (0x2f86d, 0x2f86d, 1, 0x5bc3), (0x2f86e, 0x2f86e, 1, 0x5bd8), (0x2f86f, 0x2f86f, 1, 0x5be7),
    (0x2f870, 0x2f870, 1, 0x5bf3), (0x2f871, 0x2f871, 1, 0x21b18), (0x2f872, 0x2f872, 1, 0x5bff),
    (0x2f873, 0x2f873, 1, 0x5c06), (0x2f874, 0x2f874, 1, 0x5f53), (0x2f875, 0x2f875, 1, 0x5c22),
    (0x2f876, 0x2f876, 1, 0x3781), (0x2f877, 0x2f877, 1, 0x5c60), (0x2f878, 0x2f878, 1, 0x5c6e),
    (0x2f879, 0x2f879, 1, 0x5cc0), (0x2f87a, 0x2f87a, 1, 0x5c8d), (0x2f87b, 0x2f87b, 1, 0x21de4),
    (0x2f87c, 0x2f87c, 1, 0x5d43), (0x2f87d, 0x2f87d, 1, 0x21de6), (0x2f87e, 0x2f87e, 1, 0x5d6e),
    (0x2f87f, 0x2f87f, 1, 0x5d6b), (0x2f880, 0x2f880, 1, 0x5d7c), (0x2f881, 0x2f882, 1, 0x5de1),
    (0x2f883, 0x2f883, 1, 0x382f), (0x2f884, 0x2f884, 1, 0x5dfd), (0x2f885, 0x2f885, 1, 0x5e28),
    (0x2f886, 0x2f886, 1, 0x5e3d), (0x2f887, 0x2f887, 1, 0x5e69), (0x2f888, 0x2f888, 1, 0x3862),
    (0x2f889, 0x2f889, 1, 0x22183), (0x2f88a, 0x2f88a, 1, 0x387c), (0x2f88b, 0x2f88b, 1, 0x5eb0),
    (0x2f88c, 0x2f88c, 1, 0x5eb3), (0x2f88d, 0x2f88d, 1, 0x5eb6), (0x2f88e, 0x2f88e, 1, 0x5eca),
    (0x2f88f, 0x2f88f, 1, 0x2a392), (0x2f890, 0x2f890, 1, 0x5efe), (0x2f891, 0x2f891, 1, 0x22331),
    (0x2f892, 0x2f892, 1, 0x22331), (0x2f893, 0x2f893, 1, 0x8201), (0x2f894, 0x2f894, 1, 0x5f22),
    (0x2f895, 0x2f895, 1, 0x5f22), (0x2f896, 0x2f896, 1, 0x38c7), (0x2f897, 0x2f897, 1, 0x232b8),
    (0x2f898, 0x2f898, 1, 0x261da), (0x2f899, 0x2f899, 1, 0x5f62), (0x2f89a, 0x2f89a, 1, 0x5f6b),
    (0x2f89b, 0x2f89b, 1, 0x38e3), (0x2f89c, 0x2f89c, 1, 0x5f9a), (0x2f89d, 0x2f89d, 1, 0x5fcd),
    (0x2f89e, 0x2f89e, 1, 0x5fd7), (0x2f89f, 0x2f89f, 1, 0x5ff9), (0x2f8a0, 0x2f8a0, 1, 0x6081),
    (0x2f8a1, 0x2f8a1, 1, 0x393a), (0x2f8a2, 0x2f8a2, 1, 0x391c), (0x2f8a3, 0x2f8a3, 1, 0x6094),
    (0x2f8a4, 0x2f8a4, 1, 0x226d4), (0x2f8a5, 0x2f8a5, 1, 0x60c7), (0x2f8a6, 0x2f8a6, 1, 0x6148),
    (0x2f8a7, 0x2f8a7, 1, 0x614c), (0x2f8a8, 0x2f8a8, 1, 0x614e), (0x2f8a9, 0x2f8a9, 1, 0x614c),
    (0x2f8aa, 0x2f8aa, 1, 0x617a), (0x2f8ab, 0x2f8ab, 1, 0x618e), (0x2f8ac, 0x2f8ac, 1, 0x61b2),
    (0x2f8ad, 0x2f8ad, 1, 0x61a4), (0x2f8ae, 0x2f8ae, 1, 0x61af), (0x2f8af, 0x2f8af, 1, 0x61de),
    (0x2f8b0, 0x2f8b0, 1, 0x61f2), (0x2f8b1, 0x2f8b1, 1, 0x61f6), (0x2f8b2, 0x2f8b2, 1, 0x6210),
    (0x2f8b3, 0x2f8b3, 1, 0x621b), (0x2f8b4, 0x2f8b4, 1, 0x625d), (0x2f8b5, 0x2f8b5, 1, 0x62b1),
    (0x2f8b6, 0x2f8b6, 1, 0x62d4), (0x2f8b7, 0x2f8b7, 1, 0x6350), (0x2f8b8, 0x2f8b8, 1, 0x22b0c),
    (0x2f8b9, 0x2f8b9, 1, 0x633d), (0x2f8ba, 0x2f8ba, 1, 0x62fc), (0x2f8bb, 0x2f8bb, 1, 0x6368),
    (0x2f8bc, 0x2f8bc, 1, 0x6383), (0x2f8bd, 0x2f8bd, 1, 0x63e4), (0x2f8be, 0x2f8be, 1, 0x22bf1),
    (0x2f8bf, 0x2f8bf, 1, 0x6422), (0x2f8c0, 0x2f8c0, 1, 0x63c5), (0x2f8c1, 0x2f8c1, 1, 0x63a9),
    (0x2f8c2, 0x2f8c2, 1, 0x3a2e), (0x2f8c3, 0x2f8c3, 1, 0x6469), (0x2f8c4, 0x2f8c4, 1, 0x647e),
    (0x2f8c5, 0x2f8c5, 1, 0x649d), (0x2f8c6, 0x2f8c6, 1, 0x6477), (0x2f8c7, 0x2f8c7, 1, 0x3a6c),
    (0x2f8c8, 0x2f8c8, 1, 0x654f), (0x2f8c9, 0x2f8c9, 1, 0x656c), (0x2f8ca, 0x2f8ca, 1, 0x2300a),
    (0x2f8cb, 0x2f8cb, 1, 0x65e3), (0x2f8cc, 0x2f8cc, 1, 0x66f8), (0x2f8cd, 0x2f8cd, 1, 0x6649),
    (0x2f8ce, 0x2f8ce, 1, 0x3b19), (0x2f8cf, 0x2f8cf, 1, 0x6691), (0x2f8d0, 0x2f8d0, 1, 0x3b08),
    (0x2f8d1, 0x2f8d1, 1, 0x3ae4), (0x2f8d2, 0x2f8d2, 1, 0x5192), (0x2f8d3, 0x2f8d3, 1, 0x5195),
    (0x2f8d4, 0x2f8d4, 1, 0x6700), (0x2f8d5, 0x2f8d5, 1, 0x669c), (0x2f8d6, 0x2f8d6, 1, 0x80ad),
    (0x2f8d7, 0x2f8d7, 1, 0x43d9), (0x2f8d8, 0x2f8d8, 1, 0x6717), (0x2f8d9, 0x2f8d9, 1, 0x671b),
    (0x2f8da, 0x2f8da, 1, 0x6721), (0x2f8db, 0x2f8db, 1, 0x675e), (0x2f8dc, 0x2f8dc, 1, 0x6753),
    (0x2f8dd, 0x2f8dd, 1, 0x233c3), (0x2f8de, 0x2f8de, 1, 0x3b49), (0x2f8df, 0x2f8df, 1, 0x67fa),
    (0x2f8e0, 0x2f8e0, 1, 0x6785), (0x2f8e1, 0x2f8e1, 1, 0x6852), (0x2f8e2, 0x2f8e2, 1, 0x6885),
    (0x2f8e3, 0x2f8e3, 1, 0x2346d), (0x2f8e4, 0x2f8e4, 1, 0x688e), (0x2f8e5, 0x2f8e5, 1, 0x681f),
    (0x2f8e6, 0x2f8e6, 1, 0x6914), (0x2f8e7, 0x2f8e7, 1, 0x3b9d), (0x2f8e8, 0x2f8e8, 1, 0x6942),
    (0x2f8e9, 0x2f8e9, 1, 0x69a3), (0x2f8ea, 0x2f8ea, 1, 0x69ea), (0x2f8eb, 0x2f8eb, 1, 0x6aa8),
    (0x2f8ec, 0x2f8ec, 1, 0x236a3), (0x2f8ed, 0x2f8ed, 1, 0x6adb), (0x2f8ee, 0x2f8ee, 1, 0x3c18),
    (0x2f8ef, 0x2f8ef, 1, 0x6b21), (0x2f8f0, 0x2f8f0, 1, 0x238a7), (0x2f8f1, 0x2f8f1, 1, 0x6b54),
    (0x2f8f2, 0x2f8f2, 1, 0x3c4e), (0x2f8f3, 0x2f8f3, 1, 0x6b72), (0x2f8f4, 0x2f8f4, 1, 0x6b9f),
    (0x2f8f5, 0x2f8f6, 1, 0x6bba), (0x2f8f7, 0x2f8f7, 1, 0x23a8d), (0x2f8f8, 0x2f8f8, 1, 0x21d0b),
    (0x2f8f9, 0x2f8f9, 1, 0x23afa), (0x2f8fa, 0x2f8fa, 1, 0x6c4e), (0x2f8fb, 0x2f8fb, 1, 0x23cbc),
    (0x2f8fc, 0x2f8fc, 1, 0x6cbf), (0x2f8fd, 0x2f8fd, 1, 0x6ccd), (0x2f8fe, 0x2f8fe, 1, 0x6c67),
    (0x2f8ff, 0x2f8ff, 1, 0x6d16), (0x2f900, 0x2f900, 1, 0x6d3e), (0x2f901, 0x2f901, 1, 0x6d77),
    (0x2f902, 0x2f902, 1, 0x6d41), (0x2f903, 0x2f903, 1, 0x6d69), (0x2f904, 0x2f904, 1, 0x6d78),
    (0x2f905, 0x2f905, 1, 0x6d85), (0x2f906, 0x2f906, 1, 0x23d1e), (0x2f907, 0x2f907, 1, 0x6d34),
    (0x2f908, 0x2f908, 1, 0x6e2f), (0x2f909, 0x2f909, 1, 0x6e6e), (0x2f90a, 0x2f90a, 1, 0x3d33),
    (0x2f90b, 0x2f90b, 1, 0x6ecb), (0x2f90c, 0x2f90c, 1, 0x6ec7), (0x2f90d, 0x2f90d, 1, 0x23ed1),
    (0x2f90e, 0x2f90e, 1, 0x6df9), (0x2f90f, 0x2f90f, 1, 0x6f6e), (0x2f910, 0x2f910, 1, 0x23f5e),
    (0x2f911, 0x2f911, 1, 0x23f8e), (0x2f912, 0x2f912, 1, 0x6fc6), (0x2f913, 0x2f913, 1, 0x7039),
    (0x2f914, 0x2f914, 1, 0x701e), (0x2f915, 0x2f915, 1, 0x701b), (0x2f916, 0x2f916, 1, 0x3d96),
    (0x2f917, 0x2f917, 1, 0x704a), (0x2f918, 0x2f918, 1, 0x707d), (0x2f919, 0x2f919, 1, 0x7077),
    (0x2f91a, 0x2f91a, 1, 0x70ad), (0x2f91b, 0x2f91b, 1, 0x20525), (0x2f91c, 0x2f91c, 1, 0x7145),
    (0x2f91d, 0x2f91d, 1, 0x24263), (0x2f91e, 0x2f91e, 1, 0x719c), (0x2f91f, 0x2f91f, 1, 0x243ab),
    (0x2f920, 0x2f920, 1, 0x7228), (0x2f921, 0x2f921, 1, 0x7235), (0x2f922, 0x2f922, 1, 0x7250),
    (0x2f923, 0x2f923, 1, 0x24608), (0x2f924, 0x2f924, 1, 0x7280), (0x2f925, 0x2f925, 1, 0x7295),
    (0x2f926, 0x2f926, 1, 0x24735), (0x2f927, 0x2f927, 1, 0x24814), (0x2f928, 0x2f928, 1, 0x737a),
    (0x2f929, 0x2f929, 1, 0x738b), (0x2f92a, 0x2f92a, 1, 0x3eac), (0x2f92b, 0x2f92b, 1, 0x73a5),
    (0x2f92c, 0x2f92c, 1, 0x3eb8), (0x2f92d, 0x2f92d, 1, 0x3eb8), (0x2f92e, 0x2f92e, 1, 0x7447),
    (0x2f92f, 0x2f92f, 1, 0x745c), (0x2f930, 0x2f930, 1, 0x7471), (0x2f931, 0x2f931, 1, 0x7485),
    (0x2f932, 0x2f932, 1, 0x74ca), (0x2f933, 0x2f933, 1, 0x3f1b), (0x2f934, 0x2f934, 1, 0x7524),
    (0x2f935, 0x2f935, 1, 0x24c36), (0x2f936, 0x2f936, 1, 0x753e), (0x2f937, 0x2f937, 1, 0x24c92),
    (0x2f938, 0x2f938, 1, 0x7570), (0x2f939, 0x2f939, 1, 0x2219f), (0x2f93a, 0x2f93a, 1, 0x7610),
    (0x2f93b, 0x2f93b, 1, 0x24fa1), (0x2f93c, 0x2f93c, 1, 0x24fb8), (0x2f93d, 0x2f93d, 1, 0x25044),
    (0x2f93e, 0x2f93e, 1, 0x3ffc), (0x2f93f, 0x2f93f, 1, 0x4008), (0x2f940, 0x2f940, 1, 0x76f4),
    (0x2f941, 0x2f941, 1, 0x250f3), (0x2f942, 0x2f942, 1, 0x250f2), (0x2f943, 0x2f943, 1, 0x25119),
    (0x2f944, 0x2f944, 1, 0x25133), (0x2f945, 0x2f946, 1, 0x771e), (0x2f947, 0x2f947, 1, 0x771f),
    (0x2f948, 0x2f948, 1, 0x774a), (0x2f949, 0x2f949, 1, 0x4039), (0x2f94a, 0x2f94a, 1, 0x778b),
    (0x2f94b, 0x2f94b, 1, 0x4046), (0x2f94c, 0x2f94c, 1, 0x4096), (0x2f94d, 0x2f94d, 1, 0x2541d),
    (0x2f94e, 0x2f94e, 1, 0x784e), (0x2f94f, 0x2f94f, 1, 0x788c), (0x2f950, 0x2f950, 1, 0x78cc),
    (0x2f951, 0x2f951, 1, 0x40e3), (0x2f952, 0x2f952, 1, 0x25626), (0x2f953, 0x2f953, 1, 0x7956),
    (0x2f954, 0x2f954, 1, 0x2569a), (0x2f955, 0x2f955, 1, 0x256c5), (0x2f956, 0x2f956, 1, 0x798f),
    (0x2f957, 0x2f957, 1, 0x79eb), (0x2f958, 0x2f958, 1, 0x412f), (0x2f959, 0x2f959, 1, 0x7a40),
    (0x2f95a, 0x2f95a, 1, 0x7a4a), (0x2f95b, 0x2f95b, 1, 0x7a4f), (0x2f95c, 0x2f95c, 1, 0x2597c),
    (0x2f95d, 0x2f95d, 1, 0x25aa7), (0x2f95e, 0x2f95e, 1, 0x25aa7), (0x2f95f, 0x2f95f, 1, 0x7aee),
    (0x2f960, 0x2f960, 1, 0x4202), (0x2f961, 0x2f961, 1, 0x25bab), (0x2f962, 0x2f962, 1, 0x7bc6),
    (0x2f963, 0x2f963, 1, 0x7bc9), (0x2f964, 0x2f964, 1, 0x4227), (0x2f965, 0x2f965, 1, 0x25c80),
    (0x2f966, 0x2f966, 1, 0x7cd2), (0x2f967, 0x2f967, 1, 0x42a0), (0x2f968, 0x2f968, 1, 0x7ce8),
    (0x2f969, 0x2f969, 1, 0x7ce3), (0x2f96a, 0x2f96a, 1, 0x7d00), (0x2f96b, 0x2f96b, 1, 0x25f86),
    (0x2f96c, 0x2f96c, 1, 0x7d63), (0x2f96d, 0x2f96d, 1, 0x4301), (0x2f96e, 0x2f96e, 1, 0x7dc7),
    (0x2f96f, 0x2f96f, 1, 0x7e02), (0x2f970, 0x2f970, 1, 0x7e45), (0x2f971, 0x2f971, 1, 0x4334),
    (0x2f972, 0x2f972, 1, 0x26228), (0x2f973, 0x2f973, 1, 0x26247), (0x2f974, 0x2f974, 1, 0x4359),
    (0x2f975, 0x2f975, 1, 0x262d9), (0x2f976, 0x2f976, 1, 0x7f7a), (0x2f977, 0x2f977, 1, 0x2633e),
    (0x2f978, 0x2f978, 1, 0x7f95), (0x2f979, 0x2f979, 1, 0x7ffa), (0x2f97a, 0x2f97a, 1, 0x8005),
    (0x2f97b, 0x2f97b, 1, 0x264da), (0x2f97c, 0x2f97c, 1, 0x26523), (0x2f97d, 0x2f97d, 1, 0x8060),
    (0x2f97e, 0x2f97e, 1, 0x265a8), (0x2f97f, 0x2f97f, 1, 0x8070), (0x2f980, 0x2f980, 1, 0x2335f),
    (0x2f981, 0x2f981, 1, 0x43d5), (0x2f982, 0x2f982, 1, 0x80b2), (0x2f983, 0x2f983, 1, 0x8103),
    (0x2f984, 0x2f984, 1, 0x440b), (0x2f985, 0x2f985, 1, 0x813e), (0x2f986, 0x2f986, 1, 0x5ab5),
    (0x2f987, 0x2f987, 1, 0x267a7), (0x2f988, 0x2f988, 1, 0x267b5), (0x2f989, 0x2f989, 1, 0x23393),
    (0x2f98a, 0x2f98a, 1, 0x2339c), (0x2f98b, 0x2f98b, 1, 0x8201), (0x2f98c, 0x2f98c, 1, 0x8204),
    (0x2f98d, 0x2f98d, 1, 0x8f9e), (0x2f98e, 0x2f98e, 1, 0x446b), (0x2f98f, 0x2f98f, 1, 0x8291),
    (0x2f990, 0x2f990, 1, 0x828b), (0x2f991, 0x2f991, 1, 0x829d), (0x2f992, 0x2f992, 1, 0x52b3),
    (0x2f993, 0x2f993, 1, 0x82b1), (0x2f994, 0x2f994, 1, 0x82b3), (0x2f995, 0x2f995, 1, 0x82bd),
    (0x2f996, 0x2f996, 1, 0x82e6), (0x2f997, 0x2f997, 1, 0x26b3c), (0x2f998, 0x2f998, 1, 0x82e5),
    (0x2f999, 0x2f999, 1, 0x831d), (0x2f99a, 0x2f99a, 1, 0x8363), (0x2f99b, 0x2f99b, 1, 0x83ad),
    (0x2f99c, 0x2f99c, 1, 0x8323), (0x2f99d, 0x2f99d, 1, 0x83bd), (0x2f99e, 0x2f99e, 1, 0x83e7),
    (0x2f99f, 0x2f99f, 1, 0x8457), (0x2f9a0, 0x2f9a0, 1, 0x8353), (0x2f9a1, 0x2f9a1, 1, 0x83ca),
    (0x2f9a2, 0x2f9a2, 1, 0x83cc), (0x2f9a3, 0x2f9a3, 1, 0x83dc), (0x2f9a4, 0x2f9a4, 1, 0x26c36),
    (0x2f9a5, 0x2f9a5, 1, 0x26d6b), (0x2f9a6, 0x2f9a6, 1, 0x26cd5), (0x2f9a7, 0x2f9a7, 1, 0x452b),
    (0x2f9a8, 0x2f9a8, 1, 0x84f1), (0x2f9a9, 0x2f9a9, 1, 0x84f3), (0x2f9aa, 0x2f9aa, 1, 0x8516),
    (0x2f9ab, 0x2f9ab, 1, 0x273ca), (0x2f9ac, 0x2f9ac, 1, 0x8564), (0x2f9ad, 0x2f9ad, 1, 0x26f2c),
    (0x2f9ae, 0x2f9ae, 1, 0x455d), (0x2f9af, 0x2f9af, 1, 0x4561), (0x2f9b0, 0x2f9b0, 1, 0x26fb1),
    (0x2f9b1, 0x2f9b1, 1, 0x270d2), (0x2f9b2, 0x2f9b2, 1, 0x456b), (0x2f9b3, 0x2f9b3, 1, 0x8650),
    (0x2f9b4, 0x2f9b4, 1, 0x865c), (0x2f9b5, 0x2f9b5, 1, 0x8667), (0x2f9b6, 0x2f9b6, 1, 0x8669),
    (0x2f9b7, 0x2f9b7, 1, 0x86a9), (0x2f9b8, 0x2f9b8, 1, 0x8688), (0x2f9b9, 0x2f9b9, 1, 0x870e),
    (0x2f9ba, 0x2f9ba, 1, 0x86e2), (0x2f9bb, 0x2f9bb, 1, 0x8779), (0x2f9bc, 0x2f9bc, 1, 0x8728),
    (0x2f9bd, 0x2f9bd, 1, 0x876b), (0x2f9be, 0x2f9be, 1, 0x8786), (0x2f9bf, 0x2f9bf, 1, 0x45d7),
    (0x2f9c0, 0x2f9c0, 1, 0x87e1), (0x2f9c1, 0x2f9c1, 1, 0x8801), (0x2f9c2, 0x2f9c2, 1, 0x45f9),
    (0x2f9c3, 0x2f9c3, 1, 0x8860), (0x2f9c4, 0x2f9c4, 1, 0x8863), (0x2f9c5, 0x2f9c5, 1, 0x27667),
    (0x2f9c6, 0x2f9c6, 1, 0x88d7), (0x2f9c7, 0x2f9c7, 1, 0x88de), (0x2f9c8, 0x2f9c8, 1, 0x4635),
    (0x2f9c9, 0x2f9c9, 1, 0x88fa), (0x2f9ca, 0x2f9ca, 1, 0x34bb), (0x2f9cb, 0x2f9cb, 1, 0x278ae),
    (0x2f9cc, 0x2f9cc, 1, 0x27966), (0x2f9cd, 0x2f9cd, 1, 0x46be), (0x2f9ce, 0x2f9ce, 1, 0x46c7),
    (0x2f9cf, 0x2f9cf, 1, 0x8aa0), (0x2f9d0, 0x2f9d0, 1, 0x8aed), (0x2f9d1, 0x2f9d1, 1, 0x8b8a),
    (0x2f9d2, 0x2f9d2, 1, 0x8c55), (0x2f9d3, 0x2f9d3, 1, 0x27ca8), (0x2f9d4, 0x2f9d4, 1, 0x8cab),
    (0x2f9d5, 0x2f9d5, 1, 0x8cc1), (0x2f9d6, 0x2f9d6, 1, 0x8d1b), (0x2f9d7, 0x2f9d7, 1, 0x8d77),
    (0x2f9d8, 0x2f9d8, 1, 0x27f2f), (0x2f9d9, 0x2f9d9, 1, 0x20804), (0x2f9da, 0x2f9da, 1, 0x8dcb),
    (0x2f9db, 0x2f9db, 1, 0x8dbc), (0x2f9dc, 0x2f9dc, 1, 0x8df0), (0x2f9dd, 0x2f9dd, 1, 0x208de),
    (0x2f9de, 0x2f9de, 1, 0x8ed4), (0x2f9df, 0x2f9df, 1, 0x8f38), (0x2f9e0, 0x2f9e0, 1, 0x285d2),
    (0x2f9e1, 0x2f9e1, 1, 0x285ed), (0x2f9e2, 0x2f9e2, 1, 0x9094), (0x2f9e3, 0x2f9e3, 1, 0x90f1),
    (0x2f9e4, 0x2f9e4, 1, 0x9111), (0x2f9e5, 0x2f9e5, 1, 0x2872e), (0x2f9e6, 0x2f9e6, 1, 0x911b),
    (0x2f9e7, 0x2f9e7, 1, 0x9238), (0x2f9e8, 0x2f9e9, 1, 0x92d7), (0x2f9ea, 0x2f9ea, 1, 0x927c),
    (0x2f9eb, 0x2f9eb, 1, 0x93f9), (0x2f9ec, 0x2f9ec, 1, 0x9415), (0x2f9ed, 0x2f9ed, 1, 0x28bfa),
    (0x2f9ee, 0x2f9ee, 1, 0x958b), (0x2f9ef, 0x2f9ef, 1, 0x4995), (0x2f9f0, 0x2f9f0, 1, 0x95b7),
    (0x2f9f1, 0x2f9f1, 1, 0x28d77), (0x2f9f2, 0x2f9f2, 1, 0x49e6), (0x2f9f3, 0x2f9f3, 1, 0x96c3),
    (0x2f9f4, 0x2f9f4, 1, 0x5db2), (0x2f9f5, 0x2f9f5, 1, 0x9723), (0x2f9f6, 0x2f9f6, 1, 0x29145),
    (0x2f9f7, 0x2f9f7, 1, 0x2921a), (0x2f9f8, 0x2f9f8, 1, 0x4a6e), (0x2f9f9, 0x2f9f9, 1, 0x4a76),
    (0x2f9fa, 0x2f9fa, 1, 0x97e0), (0x2f9fb, 0x2f9fb, 1, 0x2940a), (0x2f9fc, 0x2f9fc, 1, 0x4ab2),
    (0x2f9fd, 0x2f9fd, 1, 0x29496), (0x2f9fe, 0x2f9fe, 1, 0x980b), (0x2f9ff, 0x2f9ff, 1, 0x980b),
    (0x2fa00, 0x2fa00, 1, 0x9829), (0x2fa01, 0x2fa01, 1, 0x295b6), (0x2fa02, 0x2fa02, 1, 0x98e2),
    (0x2fa03, 0x2fa03, 1, 0x4b33), (0x2fa04, 0x2fa04, 1, 0x9929), (0x2fa05, 0x2fa05, 1, 0x99a7),
    (0x2fa06, 0x2fa06, 1, 0x99c2), (0x2fa07, 0x2fa07, 1, 0x99fe), (0x2fa08, 0x2fa08, 1, 0x4bce),
    (0x2fa09, 0x2fa09, 1, 0x29b30), (0x2fa0a, 0x2fa0a, 1, 0x9b12), (0x2fa0b, 0x2fa0b, 1, 0x9c40),
    (0x2fa0c, 0x2fa0c, 1, 0x9cfd), (0x2fa0d, 0x2fa0d, 1, 0x4cce), (0x2fa0e, 0x2fa0e, 1, 0x4ced),
    (0x2fa0f, 0x2fa0f, 1, 0x9d67), (0x2fa10, 0x2fa10, 1, 0x2a0ce), (0x2fa11, 0x2fa11, 1, 0x4cf8),
    (0x2fa12, 0x2fa12, 1, 0x2a105), (0x2fa13, 0x2fa13, 1, 0x2a20e), (0x2fa14, 0x2fa14, 1, 0x2a291),
    (0x2fa15, 0x2fa15, 1, 0x9ebb), (0x2fa16, 0x2fa16, 1, 0x4d56), (0x2fa17, 0x2fa17, 1, 0x9ef9),
    (0x2fa18, 0x2fa18, 1, 0x9efe), (0x2fa19, 0x2fa19, 1, 0x9f05), (0x2fa1a, 0x2fa1a, 1, 0x9f0f),
    (0x2fa1b, 0x2fa1b, 1, 0x9f16), (0x2fa1c, 0x2fa1c, 1, 0x9f3b), (0x2fa1d, 0x2fa1d, 1, 0x2a600)]

end QueryWatch.HostName.Forms
