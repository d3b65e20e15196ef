namespace QueryWatch.HostName.Forms

def letterRuns : Array (Nat × Nat × Nat × Nat) := #[
  (0x41, 0x5a, 1, 0x61), (0xa0, 0xa0, 1, 0x20), (0xaa, 0xaa, 1, 0x61), (0xb2, 0xb3, 1, 0x32),
    (0xb5, 0xb5, 1, 0x3bc), (0xb9, 0xb9, 1, 0x31), (0xba, 0xba, 1, 0x6f), (0xc0, 0xd6, 1, 0xe0),
    (0xd8, 0xde, 1, 0xf8), (0x100, 0x12e, 2, 0x101), (0x134, 0x136, 2, 0x135),
    (0x139, 0x13d, 2, 0x13a), (0x141, 0x147, 2, 0x142), (0x14a, 0x176, 2, 0x14b),
    (0x178, 0x178, 1, 0xff), (0x179, 0x17d, 2, 0x17a), (0x17f, 0x17f, 1, 0x73),
    (0x181, 0x181, 1, 0x253), (0x182, 0x184, 2, 0x183), (0x186, 0x186, 1, 0x254),
    (0x187, 0x187, 1, 0x188), (0x189, 0x18a, 1, 0x256), (0x18b, 0x18b, 1, 0x18c),
    (0x18e, 0x18e, 1, 0x1dd), (0x18f, 0x18f, 1, 0x259), (0x190, 0x190, 1, 0x25b),
    (0x191, 0x191, 1, 0x192), (0x193, 0x193, 1, 0x260), (0x194, 0x194, 1, 0x263),
    (0x196, 0x196, 1, 0x269), (0x197, 0x197, 1, 0x268), (0x198, 0x198, 1, 0x199),
    (0x19c, 0x19c, 1, 0x26f), (0x19d, 0x19d, 1, 0x272), (0x19f, 0x19f, 1, 0x275),
    (0x1a0, 0x1a4, 2, 0x1a1), (0x1a6, 0x1a6, 1, 0x280), (0x1a7, 0x1a7, 1, 0x1a8),
    (0x1a9, 0x1a9, 1, 0x283), (0x1ac, 0x1ac, 1, 0x1ad), (0x1ae, 0x1ae, 1, 0x288),
    (0x1af, 0x1af, 1, 0x1b0), (0x1b1, 0x1b2, 1, 0x28a), (0x1b3, 0x1b5, 2, 0x1b4),
    (0x1b7, 0x1b7, 1, 0x292), (0x1b8, 0x1b8, 1, 0x1b9), (0x1bc, 0x1bc, 1, 0x1bd),
    (0x1cd, 0x1db, 2, 0x1ce), (0x1de, 0x1ee, 2, 0x1df), (0x1f4, 0x1f4, 1, 0x1f5),
    (0x1f6, 0x1f6, 1, 0x195), (0x1f7, 0x1f7, 1, 0x1bf), (0x1f8, 0x21e, 2, 0x1f9),
    (0x220, 0x220, 1, 0x19e), (0x222, 0x232, 2, 0x223), (0x23a, 0x23a, 1, 0x2c65),
    (0x23b, 0x23b, 1, 0x23c), (0x23d, 0x23d, 1, 0x19a), (0x23e, 0x23e, 1, 0x2c66),
    (0x241, 0x241, 1, 0x242), (0x243, 0x243, 1, 0x180), (0x244, 0x244, 1, 0x289),
    (0x245, 0x245, 1, 0x28c), (0x246, 0x24e, 2, 0x247), (0x2b0, 0x2b0, 1, 0x68),
    (0x2b1, 0x2b1, 1, 0x266), (0x2b2, 0x2b2, 1, 0x6a), (0x2b3, 0x2b3, 1, 0x72),
    (0x2b4, 0x2b4, 1, 0x279), (0x2b5, 0x2b5, 1, 0x27b), (0x2b6, 0x2b6, 1, 0x281),
    (0x2b7, 0x2b7, 1, 0x77), (0x2b8, 0x2b8, 1, 0x79), (0x2e0, 0x2e0, 1, 0x263),
    (0x2e1, 0x2e1, 1, 0x6c), (0x2e2, 0x2e2, 1, 0x73), (0x2e3, 0x2e3, 1, 0x78),
    (0x2e4, 0x2e4, 1, 0x295), (0x340, 0x341, 1, 0x300), (0x343, 0x343, 1, 0x313),
    (0x345, 0x345, 1, 0x3b9), (0x370, 0x372, 2, 0x371), (0x374, 0x374, 1, 0x2b9),
    (0x376, 0x376, 1, 0x377), (0x37e, 0x37e, 1, 0x3b), (0x37f, 0x37f, 1, 0x3f3),
    (0x386, 0x386, 1, 0x3ac), (0x387, 0x387, 1, 0xb7), (0x388, 0x38a, 1, 0x3ad),
    (0x38c, 0x38c, 1, 0x3cc), (0x38e, 0x38f, 1, 0x3cd), (0x391, 0x3a1, 1, 0x3b1),
    (0x3a3, 0x3ab, 1, 0x3c3), (0x3cf, 0x3cf, 1, 0x3d7), (0x3d0, 0x3d0, 1, 0x3b2),
    (0x3d1, 0x3d1, 1, 0x3b8), (0x3d2, 0x3d2, 1, 0x3c5), (0x3d3, 0x3d3, 1, 0x3cd),
    (0x3d4, 0x3d4, 1, 0x3cb), (0x3d5, 0x3d5, 1, 0x3c6), (0x3d6, 0x3d6, 1, 0x3c0),
    (0x3d8, 0x3ee, 2, 0x3d9), (0x3f0, 0x3f0, 1, 0x3ba), (0x3f1, 0x3f1, 1, 0x3c1),
    (0x3f2, 0x3f2, 1, 0x3c3), (0x3f4, 0x3f4, 1, 0x3b8), (0x3f5, 0x3f5, 1, 0x3b5),
    (0x3f7, 0x3f7, 1, 0x3f8), (0x3f9, 0x3f9, 1, 0x3c3), (0x3fa, 0x3fa, 1, 0x3fb),
    (0x3fd, 0x3ff, 1, 0x37b), (0x400, 0x40f, 1, 0x450), (0x410, 0x42f, 1, 0x430),
    (0x460, 0x480, 2, 0x461), (0x48a, 0x4be, 2, 0x48b), (0x4c0, 0x4c0, 1, 0x4cf),
    (0x4c1, 0x4cd, 2, 0x4c2), (0x4d0, 0x52e, 2, 0x4d1), (0x531, 0x556, 1, 0x561),
    (0xf0c, 0xf0c, 1, 0xf0b), (0x10a0, 0x10c5, 1, 0x2d00), (0x10c7, 0x10c7, 1, 0x2d27),
    (0x10cd, 0x10cd, 1, 0x2d2d), (0x10fc, 0x10fc, 1, 0x10dc), (0x13f8, 0x13fd, 1, 0x13f0),
    (0x1c80, 0x1c80, 1, 0x432), (0x1c81, 0x1c81, 1, 0x434), (0x1c82, 0x1c82, 1, 0x43e),
    (0x1c83, 0x1c84, 1, 0x441), (0x1c85, 0x1c85, 1, 0x442), (0x1c86, 0x1c86, 1, 0x44a),
    (0x1c87, 0x1c87, 1, 0x463), (0x1c88, 0x1c88, 1, 0xa64b), (0x1c89, 0x1c89, 1, 0x1c8a),
    (0x1c90, 0x1cba, 1, 0x10d0), (0x1cbd, 0x1cbf, 1, 0x10fd), (0x1d2c, 0x1d2c, 1, 0x61),
    (0x1d2d, 0x1d2d, 1, 0xe6), (0x1d2e, 0x1d30, 2, 0x62), (0x1d31, 0x1d31, 1, 0x65),
    (0x1d32, 0x1d32, 1, 0x1dd), (0x1d33, 0x1d3a, 1, 0x67), (0x1d3c, 0x1d3c, 1, 0x6f),
    (0x1d3d, 0x1d3d, 1, 0x223), (0x1d3e, 0x1d3e, 1, 0x70), (0x1d3f, 0x1d3f, 1, 0x72),
    (0x1d40, 0x1d41, 1, 0x74), (0x1d42, 0x1d42, 1, 0x77), (0x1d43, 0x1d43, 1, 0x61),
    (0x1d44, 0x1d45, 1, 0x250), (0x1d46, 0x1d46, 1, 0x1d02), (0x1d47, 0x1d47, 1, 0x62),
    (0x1d48, 0x1d49, 1, 0x64), (0x1d4a, 0x1d4a, 1, 0x259), (0x1d4b, 0x1d4c, 1, 0x25b),
    (0x1d4d, 0x1d4d, 1, 0x67), (0x1d4f, 0x1d4f, 1, 0x6b), (0x1d50, 0x1d50, 1, 0x6d),
    (0x1d51, 0x1d51, 1, 0x14b), (0x1d52, 0x1d52, 1, 0x6f), (0x1d53, 0x1d53, 1, 0x254),
    (0x1d54, 0x1d55, 1, 0x1d16), (0x1d56, 0x1d56, 1, 0x70), (0x1d57, 0x1d58, 1, 0x74),
    (0x1d59, 0x1d59, 1, 0x1d1d), (0x1d5a, 0x1d5a, 1, 0x26f), (0x1d5b, 0x1d5b, 1, 0x76),
    (0x1d5c, 0x1d5c, 1, 0x1d25), (0x1d5d, 0x1d5f, 1, 0x3b2), (0x1d60, 0x1d61, 1, 0x3c6),
    (0x1d62, 0x1d62, 1, 0x69), (0x1d63, 0x1d63, 1, 0x72), (0x1d64, 0x1d65, 1, 0x75),
    (0x1d66, 0x1d67, 1, 0x3b2), (0x1d68, 0x1d68, 1, 0x3c1), (0x1d69, 0x1d6a, 1, 0x3c6),
    (0x1d78, 0x1d78, 1, 0x43d), (0x1d9b, 0x1d9b, 1, 0x252), (0x1d9c, 0x1d9c, 1, 0x63),
    (0x1d9d, 0x1d9d, 1, 0x255), (0x1d9e, 0x1d9e, 1, 0xf0), (0x1d9f, 0x1d9f, 1, 0x25c),
    (0x1da0, 0x1da0, 1, 0x66), (0x1da1, 0x1da1, 1, 0x25f), (0x1da2, 0x1da2, 1, 0x261),
    (0x1da3, 0x1da3, 1, 0x265), (0x1da4, 0x1da6, 1, 0x268), (0x1da7, 0x1da7, 1, 0x1d7b),
    (0x1da8, 0x1da8, 1, 0x29d), (0x1da9, 0x1da9, 1, 0x26d), (0x1daa, 0x1daa, 1, 0x1d85),
    (0x1dab, 0x1dab, 1, 0x29f), (0x1dac, 0x1dac, 1, 0x271), (0x1dad, 0x1dad, 1, 0x270),
    (0x1dae, 0x1db1, 1, 0x272), (0x1db2, 0x1db2, 1, 0x278), (0x1db3, 0x1db4, 1, 0x282),
    (0x1db5, 0x1db5, 1, 0x1ab), (0x1db6, 0x1db7, 1, 0x289), (0x1db8, 0x1db8, 1, 0x1d1c),
    (0x1db9, 0x1dba, 1, 0x28b), (0x1dbb, 0x1dbb, 1, 0x7a), (0x1dbc, 0x1dbe, 1, 0x290),
    (0x1dbf, 0x1dbf, 1, 0x3b8), (0x1e00, 0x1e94, 2, 0x1e01), (0x1e9b, 0x1e9b, 1, 0x1e61),
    (0x1e9e, 0x1e9e, 1, 0xdf), (0x1ea0, 0x1efe, 2, 0x1ea1), (0x1f08, 0x1f0f, 1, 0x1f00),
    (0x1f18, 0x1f1d, 1, 0x1f10), (0x1f28, 0x1f2f, 1, 0x1f20), (0x1f38, 0x1f3f, 1, 0x1f30),
    (0x1f48, 0x1f4d, 1, 0x1f40), (0x1f59, 0x1f5f, 2, 0x1f51), (0x1f68, 0x1f6f, 1, 0x1f60),
    (0x1f71, 0x1f71, 1, 0x3ac), (0x1f73, 0x1f73, 1, 0x3ad), (0x1f75, 0x1f75, 1, 0x3ae),
    (0x1f77, 0x1f77, 1, 0x3af), (0x1f79, 0x1f79, 1, 0x3cc), (0x1f7b, 0x1f7b, 1, 0x3cd),
    (0x1f7d, 0x1f7d, 1, 0x3ce), (0x1fb8, 0x1fb9, 1, 0x1fb0), (0x1fba, 0x1fba, 1, 0x1f70),
    (0x1fbb, 0x1fbb, 1, 0x3ac), (0x1fbe, 0x1fbe, 1, 0x3b9), (0x1fc8, 0x1fc8, 1, 0x1f72),
    (0x1fc9, 0x1fc9, 1, 0x3ad), (0x1fca, 0x1fca, 1, 0x1f74), (0x1fcb, 0x1fcb, 1, 0x3ae),
    (0x1fd3, 0x1fd3, 1, 0x390), (0x1fd8, 0x1fd9, 1, 0x1fd0), (0x1fda, 0x1fda, 1, 0x1f76),
    (0x1fdb, 0x1fdb, 1, 0x3af), (0x1fe3, 0x1fe3, 1, 0x3b0), (0x1fe8, 0x1fe9, 1, 0x1fe0),
    (0x1fea, 0x1fea, 1, 0x1f7a), (0x1feb, 0x1feb, 1, 0x3cd), (0x1fec, 0x1fec, 1, 0x1fe5),
    (0x1fef, 0x1fef, 1, 0x60), (0x1ff8, 0x1ff8, 1, 0x1f78), (0x1ff9, 0x1ff9, 1, 0x3cc),
    (0x1ffa, 0x1ffa, 1, 0x1f7c), (0x1ffb, 0x1ffb, 1, 0x3ce), (0x2000, 0x2000, 1, 0x20),
    (0x2001, 0x2001, 1, 0x20), (0x2002, 0x2002, 1, 0x20), (0x2003, 0x2003, 1, 0x20),
    (0x2004, 0x2004, 1, 0x20), (0x2005, 0x2005, 1, 0x20), (0x2006, 0x2006, 1, 0x20),
    (0x2007, 0x2007, 1, 0x20), (0x2008, 0x2008, 1, 0x20), (0x2009, 0x2009, 1, 0x20),
    (0x200a, 0x200a, 1, 0x20), (0x2011, 0x2011, 1, 0x2010), (0x202f, 0x202f, 1, 0x20),
    (0x205f, 0x205f, 1, 0x20), (0x2070, 0x2070, 1, 0x30), (0x2071, 0x2071, 1, 0x69),
    (0x2074, 0x2079, 1, 0x34), (0x207a, 0x207a, 1, 0x2b), (0x207b, 0x207b, 1, 0x2212),
    (0x207c, 0x207c, 1, 0x3d), (0x207d, 0x207e, 1, 0x28), (0x207f, 0x207f, 1, 0x6e),
    (0x2080, 0x2089, 1, 0x30), (0x208a, 0x208a, 1, 0x2b), (0x208b, 0x208b, 1, 0x2212),
    (0x208c, 0x208c, 1, 0x3d), (0x208d, 0x208e, 1, 0x28), (0x2090, 0x2090, 1, 0x61),
    (0x2091, 0x2091, 1, 0x65), (0x2092, 0x2092, 1, 0x6f), (0x2093, 0x2093, 1, 0x78),
    (0x2094, 0x2094, 1, 0x259), (0x2095, 0x2095, 1, 0x68), (0x2096, 0x2099, 1, 0x6b),
    (0x209a, 0x209a, 1, 0x70), (0x209b, 0x209c, 1, 0x73), (0x2102, 0x2102, 1, 0x63),
    (0x2107, 0x2107, 1, 0x25b), (0x210a, 0x210b, 1, 0x67), (0x210c, 0x210c, 1, 0x68),
    (0x210d, 0x210d, 1, 0x68), (0x210e, 0x210e, 1, 0x68), (0x210f, 0x210f, 1, 0x127),
    (0x2110, 0x2110, 1, 0x69), (0x2111, 0x2111, 1, 0x69), (0x2112, 0x2112, 1, 0x6c),
    (0x2113, 0x2115, 2, 0x6c), (0x2119, 0x211b, 1, 0x70), (0x211c, 0x211c, 1, 0x72),
    (0x211d, 0x211d, 1, 0x72), (0x2124, 0x2124, 1, 0x7a), (0x2126, 0x2126, 1, 0x3c9),
    (0x2128, 0x2128, 1, 0x7a), (0x212a, 0x212a, 1, 0x6b), (0x212b, 0x212b, 1, 0xe5),
    (0x212c, 0x212d, 1, 0x62), (0x212f, 0x212f, 1, 0x65), (0x2130, 0x2131, 1, 0x65),
    (0x2132, 0x2132, 1, 0x214e), (0x2133, 0x2133, 1, 0x6d), (0x2134, 0x2134, 1, 0x6f),
    (0x2135, 0x2138, 1, 0x5d0), (0x2139, 0x2139, 1, 0x69), (0x213c, 0x213c, 1, 0x3c0),
    (0x213d, 0x213d, 1, 0x3b3), (0x213e, 0x213e, 1, 0x3b3), (0x213f, 0x213f, 1, 0x3c0),
    (0x2140, 0x2140, 1, 0x2211), (0x2145, 0x2145, 1, 0x64), (0x2146, 0x2147, 1, 0x64),
    (0x2148, 0x2149, 1, 0x69), (0x2160, 0x2160, 1, 0x69), (0x2164, 0x2164, 1, 0x76),
    (0x2169, 0x2169, 1, 0x78), (0x216c, 0x216c, 1, 0x6c), (0x216d, 0x216e, 1, 0x63),
    (0x216f, 0x216f, 1, 0x6d), (0x2170, 0x2170, 1, 0x69), (0x2174, 0x2174, 1, 0x76),
    (0x2179, 0x2179, 1, 0x78), (0x217c, 0x217c, 1, 0x6c), (0x217d, 0x217e, 1, 0x63),
    (0x217f, 0x217f, 1, 0x6d), (0x2183, 0x2183, 1, 0x2184), (0x2329, 0x232a, 1, 0x3008),
    (0x2460, 0x2468, 1, 0x31), (0x24b6, 0x24cf, 1, 0x61), (0x24d0, 0x24e9, 1, 0x61),
    (0x24ea, 0x24ea, 1, 0x30), (0x2c00, 0x2c2f, 1, 0x2c30), (0x2c60, 0x2c60, 1, 0x2c61),
    (0x2c62, 0x2c62, 1, 0x26b), (0x2c63, 0x2c63, 1, 0x1d7d), (0x2c64, 0x2c64, 1, 0x27d),
    (0x2c67, 0x2c6b, 2, 0x2c68), (0x2c6d, 0x2c6d, 1, 0x251), (0x2c6e, 0x2c6e, 1, 0x271),
    (0x2c6f, 0x2c6f, 1, 0x250), (0x2c70, 0x2c70, 1, 0x252), (0x2c72, 0x2c72, 1, 0x2c73),
    (0x2c75, 0x2c75, 1, 0x2c76), (0x2c7c, 0x2c7c, 1, 0x6a), (0x2c7d, 0x2c7d, 1, 0x76),
    (0x2c7e, 0x2c7f, 1, 0x23f), (0x2c80, 0x2ce2, 2, 0x2c81), (0x2ceb, 0x2ced, 2, 0x2cec),
    (0x2cf2, 0x2cf2, 1, 0x2cf3), (0x2d6f, 0x2d6f, 1, 0x2d61), (0xa640, 0xa66c, 2, 0xa641),
    (0xa680, 0xa69a, 2, 0xa681), (0xa69c, 0xa69c, 1, 0x44a), (0xa69d, 0xa69d, 1, 0x44c),
    (0xa722, 0xa72e, 2, 0xa723), (0xa732, 0xa76e, 2, 0xa733), (0xa770, 0xa770, 1, 0xa76f),
    (0xa779, 0xa77b, 2, 0xa77a), (0xa77d, 0xa77d, 1, 0x1d79), (0xa77e, 0xa786, 2, 0xa77f),
    (0xa78b, 0xa78b, 1, 0xa78c), (0xa78d, 0xa78d, 1, 0x265), (0xa790, 0xa792, 2, 0xa791),
    (0xa796, 0xa7a8, 2, 0xa797), (0xa7aa, 0xa7aa, 1, 0x266), (0xa7ab, 0xa7ab, 1, 0x25c),
    (0xa7ac, 0xa7ac, 1, 0x261), (0xa7ad, 0xa7ad, 1, 0x26c), (0xa7ae, 0xa7ae, 1, 0x26a),
    (0xa7b0, 0xa7b0, 1, 0x29e), (0xa7b1, 0xa7b1, 1, 0x287), (0xa7b2, 0xa7b2, 1, 0x29d),
    (0xa7b3, 0xa7b3, 1, 0xab53), (0xa7b4, 0xa7c2, 2, 0xa7b5), (0xa7c4, 0xa7c4, 1, 0xa794),
    (0xa7c5, 0xa7c5, 1, 0x282), (0xa7c6, 0xa7c6, 1, 0x1d8e), (0xa7c7, 0xa7c9, 2, 0xa7c8),
    (0xa7cb, 0xa7cb, 1, 0x264), (0xa7cc, 0xa7da, 2, 0xa7cd), (0xa7dc, 0xa7dc, 1, 0x19b),
    (0xa7f1, 0xa7f1, 1, 0x73), (0xa7f2, 0xa7f2, 1, 0x63), (0xa7f3, 0xa7f3, 1, 0x66),
    (0xa7f4, 0xa7f4, 1, 0x71), (0xa7f5, 0xa7f5, 1, 0xa7f6), (0xa7f8, 0xa7f8, 1, 0x127),
    (0xa7f9, 0xa7f9, 1, 0x153), (0xab5c, 0xab5c, 1, 0xa727), (0xab5d, 0xab5d, 1, 0xab37),
    (0xab5e, 0xab5e, 1, 0x26b), (0xab5f, 0xab5f, 1, 0xab52), (0xab69, 0xab69, 1, 0x28d),
    (0xab70, 0xabbf, 1, 0x13a0)]

def letterGroups : Array (Nat × List Nat) := #[
  (0xa8, [0x20, 0x308]), (0xaf, [0x20, 0x304]), (0xb4, [0x20, 0x301]), (0xb8, [0x20, 0x327]),
    (0xbc, [0x31, 0x2044, 0x34]), (0xbd, [0x31, 0x2044, 0x32]), (0xbe, [0x33, 0x2044, 0x34]),
    (0x130, [0x69, 0x307]), (0x132, [0x69, 0x6a]), (0x133, [0x69, 0x6a]), (0x13f, [0x6c, 0xb7]),
    (0x140, [0x6c, 0xb7]), (0x149, [0x2bc, 0x6e]), (0x1c4, [0x64, 0x17e]), (0x1c5, [0x64, 0x17e]),
    (0x1c6, [0x64, 0x17e]), (0x1c7, [0x6c, 0x6a]), (0x1c8, [0x6c, 0x6a]), (0x1c9, [0x6c, 0x6a]),
    (0x1ca, [0x6e, 0x6a]), (0x1cb, [0x6e, 0x6a]), (0x1cc, [0x6e, 0x6a]), (0x1f1, [0x64, 0x7a]),
    (0x1f2, [0x64, 0x7a]), (0x1f3, [0x64, 0x7a]), (0x2d8, [0x20, 0x306]), (0x2d9, [0x20, 0x307]),
    (0x2da, [0x20, 0x30a]), (0x2db, [0x20, 0x328]), (0x2dc, [0x20, 0x303]), (0x2dd, [0x20, 0x30b]),
    (0x344, [0x308, 0x301]), (0x37a, [0x20, 0x3b9]), (0x384, [0x20, 0x301]),
    (0x385, [0x20, 0x308, 0x301]), (0x587, [0x565, 0x582]), (0x675, [0x627, 0x674]),
    (0x676, [0x648, 0x674]), (0x677, [0x6c7, 0x674]), (0x678, [0x64a, 0x674]),
    (0x958, [0x915, 0x93c]), (0x959, [0x916, 0x93c]), (0x95a, [0x917, 0x93c]),
    (0x95b, [0x91c, 0x93c]), (0x95c, [0x921, 0x93c]), (0x95d, [0x922, 0x93c]),
    (0x95e, [0x92b, 0x93c]), (0x95f, [0x92f, 0x93c]), (0x9dc, [0x9a1, 0x9bc]),
    (0x9dd, [0x9a2, 0x9bc]), (0x9df, [0x9af, 0x9bc]), (0xa33, [0xa32, 0xa3c]),
    (0xa36, [0xa38, 0xa3c]), (0xa59, [0xa16, 0xa3c]), (0xa5a, [0xa17, 0xa3c]),
    (0xa5b, [0xa1c, 0xa3c]), (0xa5e, [0xa2b, 0xa3c]), (0xb5c, [0xb21, 0xb3c]),
    (0xb5d, [0xb22, 0xb3c]), (0xe33, [0xe4d, 0xe32]), (0xeb3, [0xecd, 0xeb2]),
    (0xedc, [0xeab, 0xe99]), (0xedd, [0xeab, 0xea1]), (0xf43, [0xf42, 0xfb7]),
    (0xf4d, [0xf4c, 0xfb7]), (0xf52, [0xf51, 0xfb7]), (0xf57, [0xf56, 0xfb7]),
    (0xf5c, [0xf5b, 0xfb7]), (0xf69, [0xf40, 0xfb5]), (0xf73, [0xf71, 0xf72]),
    (0xf75, [0xf71, 0xf74]), (0xf76, [0xfb2, 0xf80]), (0xf77, [0xfb2, 0xf71, 0xf80]),
    (0xf78, [0xfb3, 0xf80]), (0xf79, [0xfb3, 0xf71, 0xf80]), (0xf81, [0xf71, 0xf80]),
    (0xf93, [0xf92, 0xfb7]), (0xf9d, [0xf9c, 0xfb7]), (0xfa2, [0xfa1, 0xfb7]),
    (0xfa7, [0xfa6, 0xfb7]), (0xfac, [0xfab, 0xfb7]), (0xfb9, [0xf90, 0xfb5]),
    (0x1e9a, [0x61, 0x2be]), (0x1f80, [0x1f00, 0x3b9]), (0x1f81, [0x1f01, 0x3b9]),
    (0x1f82, [0x1f02, 0x3b9]), (0x1f83, [0x1f03, 0x3b9]), (0x1f84, [0x1f04, 0x3b9]),
    (0x1f85, [0x1f05, 0x3b9]), (0x1f86, [0x1f06, 0x3b9]), (0x1f87, [0x1f07, 0x3b9]),
    (0x1f88, [0x1f00, 0x3b9]), (0x1f89, [0x1f01, 0x3b9]), (0x1f8a, [0x1f02, 0x3b9]),
    (0x1f8b, [0x1f03, 0x3b9]), (0x1f8c, [0x1f04, 0x3b9]), (0x1f8d, [0x1f05, 0x3b9]),
    (0x1f8e, [0x1f06, 0x3b9]), (0x1f8f, [0x1f07, 0x3b9]), (0x1f90, [0x1f20, 0x3b9]),
    (0x1f91, [0x1f21, 0x3b9]), (0x1f92, [0x1f22, 0x3b9]), (0x1f93, [0x1f23, 0x3b9]),
    (0x1f94, [0x1f24, 0x3b9]), (0x1f95, [0x1f25, 0x3b9]), (0x1f96, [0x1f26, 0x3b9]),
    (0x1f97, [0x1f27, 0x3b9]), (0x1f98, [0x1f20, 0x3b9]), (0x1f99, [0x1f21, 0x3b9]),
    (0x1f9a, [0x1f22, 0x3b9]), (0x1f9b, [0x1f23, 0x3b9]), (0x1f9c, [0x1f24, 0x3b9]),
    (0x1f9d, [0x1f25, 0x3b9]), (0x1f9e, [0x1f26, 0x3b9]), (0x1f9f, [0x1f27, 0x3b9]),
    (0x1fa0, [0x1f60, 0x3b9]), (0x1fa1, [0x1f61, 0x3b9]), (0x1fa2, [0x1f62, 0x3b9]),
    (0x1fa3, [0x1f63, 0x3b9]), (0x1fa4, [0x1f64, 0x3b9]), (0x1fa5, [0x1f65, 0x3b9]),
    (0x1fa6, [0x1f66, 0x3b9]), (0x1fa7, [0x1f67, 0x3b9]), (0x1fa8, [0x1f60, 0x3b9]),
    (0x1fa9, [0x1f61, 0x3b9]), (0x1faa, [0x1f62, 0x3b9]), (0x1fab, [0x1f63, 0x3b9]),
    (0x1fac, [0x1f64, 0x3b9]), (0x1fad, [0x1f65, 0x3b9]), (0x1fae, [0x1f66, 0x3b9]),
    (0x1faf, [0x1f67, 0x3b9]), (0x1fb2, [0x1f70, 0x3b9]), (0x1fb3, [0x3b1, 0x3b9]),
    (0x1fb4, [0x3ac, 0x3b9]), (0x1fb7, [0x1fb6, 0x3b9]), (0x1fbc, [0x3b1, 0x3b9]),
    (0x1fbd, [0x20, 0x313]), (0x1fbf, [0x20, 0x313]), (0x1fc0, [0x20, 0x342]),
    (0x1fc1, [0x20, 0x308, 0x342]), (0x1fc2, [0x1f74, 0x3b9]), (0x1fc3, [0x3b7, 0x3b9]),
    (0x1fc4, [0x3ae, 0x3b9]), (0x1fc7, [0x1fc6, 0x3b9]), (0x1fcc, [0x3b7, 0x3b9]),
    (0x1fcd, [0x20, 0x313, 0x300]), (0x1fce, [0x20, 0x313, 0x301]), (0x1fcf, [0x20, 0x313, 0x342]),
    (0x1fdd, [0x20, 0x314, 0x300]), (0x1fde, [0x20, 0x314, 0x301]), (0x1fdf, [0x20, 0x314, 0x342]),
    (0x1fed, [0x20, 0x308, 0x300]), (0x1fee, [0x20, 0x308, 0x301]), (0x1ff2, [0x1f7c, 0x3b9]),
    (0x1ff3, [0x3c9, 0x3b9]), (0x1ff4, [0x3ce, 0x3b9]), (0x1ff7, [0x1ff6, 0x3b9]),
    (0x1ffc, [0x3c9, 0x3b9]), (0x1ffd, [0x20, 0x301]), (0x1ffe, [0x20, 0x314]),
    (0x2017, [0x20, 0x333]), (0x2033, [0x2032, 0x2032]), (0x2034, [0x2032, 0x2032, 0x2032]),
    (0x2036, [0x2035, 0x2035]), (0x2037, [0x2035, 0x2035, 0x2035]), (0x203c, [0x21, 0x21]),
    (0x203e, [0x20, 0x305]), (0x2047, [0x3f, 0x3f]), (0x2048, [0x3f, 0x21]),
    (0x2049, [0x21, 0x3f]), (0x2057, [0x2032, 0x2032, 0x2032, 0x2032]), (0x20a8, [0x72, 0x73]),
    (0x2100, [0x61, 0x2f, 0x63]), (0x2101, [0x61, 0x2f, 0x73]), (0x2103, [0xb0, 0x63]),
    (0x2105, [0x63, 0x2f, 0x6f]), (0x2106, [0x63, 0x2f, 0x75]), (0x2109, [0xb0, 0x66]),
    (0x2116, [0x6e, 0x6f]), (0x2120, [0x73, 0x6d]), (0x2121, [0x74, 0x65, 0x6c]),
    (0x2122, [0x74, 0x6d]), (0x213b, [0x66, 0x61, 0x78]), (0x2150, [0x31, 0x2044, 0x37]),
    (0x2151, [0x31, 0x2044, 0x39]), (0x2152, [0x31, 0x2044, 0x31, 0x30]),
    (0x2153, [0x31, 0x2044, 0x33]), (0x2154, [0x32, 0x2044, 0x33]), (0x2155, [0x31, 0x2044, 0x35]),
    (0x2156, [0x32, 0x2044, 0x35]), (0x2157, [0x33, 0x2044, 0x35]), (0x2158, [0x34, 0x2044, 0x35]),
    (0x2159, [0x31, 0x2044, 0x36]), (0x215a, [0x35, 0x2044, 0x36]), (0x215b, [0x31, 0x2044, 0x38]),
    (0x215c, [0x33, 0x2044, 0x38]), (0x215d, [0x35, 0x2044, 0x38]), (0x215e, [0x37, 0x2044, 0x38]),
    (0x215f, [0x31, 0x2044]), (0x2161, [0x69, 0x69]), (0x2162, [0x69, 0x69, 0x69]),
    (0x2163, [0x69, 0x76]), (0x2165, [0x76, 0x69]), (0x2166, [0x76, 0x69, 0x69]),
    (0x2167, [0x76, 0x69, 0x69, 0x69]), (0x2168, [0x69, 0x78]), (0x216a, [0x78, 0x69]),
    (0x216b, [0x78, 0x69, 0x69]), (0x2171, [0x69, 0x69]), (0x2172, [0x69, 0x69, 0x69]),
    (0x2173, [0x69, 0x76]), (0x2175, [0x76, 0x69]), (0x2176, [0x76, 0x69, 0x69]),
    (0x2177, [0x76, 0x69, 0x69, 0x69]), (0x2178, [0x69, 0x78]), (0x217a, [0x78, 0x69]),
    (0x217b, [0x78, 0x69, 0x69]), (0x2189, [0x30, 0x2044, 0x33]), (0x222c, [0x222b, 0x222b]),
    (0x222d, [0x222b, 0x222b, 0x222b]), (0x222f, [0x222e, 0x222e]),
    (0x2230, [0x222e, 0x222e, 0x222e]), (0x2469, [0x31, 0x30]), (0x246a, [0x31, 0x31]),
    (0x246b, [0x31, 0x32]), (0x246c, [0x31, 0x33]), (0x246d, [0x31, 0x34]), (0x246e, [0x31, 0x35]),
    (0x246f, [0x31, 0x36]), (0x2470, [0x31, 0x37]), (0x2471, [0x31, 0x38]), (0x2472, [0x31, 0x39]),
    (0x2473, [0x32, 0x30]), (0x2474, [0x28, 0x31, 0x29]), (0x2475, [0x28, 0x32, 0x29]),
    (0x2476, [0x28, 0x33, 0x29]), (0x2477, [0x28, 0x34, 0x29]), (0x2478, [0x28, 0x35, 0x29]),
    (0x2479, [0x28, 0x36, 0x29]), (0x247a, [0x28, 0x37, 0x29]), (0x247b, [0x28, 0x38, 0x29]),
    (0x247c, [0x28, 0x39, 0x29]), (0x247d, [0x28, 0x31, 0x30, 0x29]),
    (0x247e, [0x28, 0x31, 0x31, 0x29]), (0x247f, [0x28, 0x31, 0x32, 0x29]),
    (0x2480, [0x28, 0x31, 0x33, 0x29]), (0x2481, [0x28, 0x31, 0x34, 0x29]),
    (0x2482, [0x28, 0x31, 0x35, 0x29]), (0x2483, [0x28, 0x31, 0x36, 0x29]),
    (0x2484, [0x28, 0x31, 0x37, 0x29]), (0x2485, [0x28, 0x31, 0x38, 0x29]),
    (0x2486, [0x28, 0x31, 0x39, 0x29]), (0x2487, [0x28, 0x32, 0x30, 0x29]),
    (0x249c, [0x28, 0x61, 0x29]), (0x249d, [0x28, 0x62, 0x29]), (0x249e, [0x28, 0x63, 0x29]),
    (0x249f, [0x28, 0x64, 0x29]), (0x24a0, [0x28, 0x65, 0x29]), (0x24a1, [0x28, 0x66, 0x29]),
    (0x24a2, [0x28, 0x67, 0x29]), (0x24a3, [0x28, 0x68, 0x29]), (0x24a4, [0x28, 0x69, 0x29]),
    (0x24a5, [0x28, 0x6a, 0x29]), (0x24a6, [0x28, 0x6b, 0x29]), (0x24a7, [0x28, 0x6c, 0x29]),
    (0x24a8, [0x28, 0x6d, 0x29]), (0x24a9, [0x28, 0x6e, 0x29]), (0x24aa, [0x28, 0x6f, 0x29]),
    (0x24ab, [0x28, 0x70, 0x29]), (0x24ac, [0x28, 0x71, 0x29]), (0x24ad, [0x28, 0x72, 0x29]),
    (0x24ae, [0x28, 0x73, 0x29]), (0x24af, [0x28, 0x74, 0x29]), (0x24b0, [0x28, 0x75, 0x29]),
    (0x24b1, [0x28, 0x76, 0x29]), (0x24b2, [0x28, 0x77, 0x29]), (0x24b3, [0x28, 0x78, 0x29]),
    (0x24b4, [0x28, 0x79, 0x29]), (0x24b5, [0x28, 0x7a, 0x29]),
    (0x2a0c, [0x222b, 0x222b, 0x222b, 0x222b]), (0x2a74, [0x3a, 0x3a, 0x3d]),
    (0x2a75, [0x3d, 0x3d]), (0x2a76, [0x3d, 0x3d, 0x3d]), (0x2adc, [0x2add, 0x338])]

end QueryWatch.HostName.Forms
