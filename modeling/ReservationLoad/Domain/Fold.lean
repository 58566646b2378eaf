import ReservationLoad.Domain.Codes

/-!
# What the characters of a host name stand for

Letters stand for their small letters, and many characters are only another
form of other ones: wide forms, letters in mathematical type, numbers in
circles, ideographs with two codes.
-/

namespace ReservationLoad.Domain

/-- Characters with one and the same distance, to each other and to the ones that they
stand for: the first and the last of them, the distance between neighbours, and what the
first stands for. -/
def letterRuns : List (Nat × Nat × Nat × Nat) :=
  [(0xC0, 0xD6, 1, 0xE0), (0xD8, 0xDE, 1, 0xF8), (0x100, 0x12E, 2, 0x101),
    (0x141, 0x147, 2, 0x142), (0x14A, 0x176, 2, 0x14B), (0x1CD, 0x1DB, 2, 0x1CE),
    (0x1DE, 0x1EE, 2, 0x1DF), (0x1F8, 0x21E, 2, 0x1F9), (0x222, 0x232, 2, 0x223),
    (0x246, 0x24E, 2, 0x247), (0x391, 0x3A1, 1, 0x3B1), (0x3A3, 0x3AB, 1, 0x3C3),
    (0x3D8, 0x3EE, 2, 0x3D9), (0x400, 0x40F, 1, 0x450), (0x410, 0x42F, 1, 0x430),
    (0x460, 0x480, 2, 0x461), (0x48A, 0x4BE, 2, 0x48B), (0x4C1, 0x4CD, 2, 0x4C2),
    (0x4D0, 0x52E, 2, 0x4D1), (0x531, 0x556, 1, 0x561), (0x10A0, 0x10C5, 1, 0x2D00),
    (0x13F8, 0x13FD, 1, 0x13F0), (0x1C90, 0x1CBA, 1, 0x10D0), (0x1D31, 0x1D39, 2, 0x65),
    (0x1D34, 0x1D3A, 2, 0x68), (0x1DAE, 0x1DB1, 1, 0x272), (0x1E00, 0x1E94, 2, 0x1E01),
    (0x1EA0, 0x1EFE, 2, 0x1EA1), (0x1F08, 0x1F0F, 1, 0x1F00), (0x1F18, 0x1F1D, 1, 0x1F10),
    (0x1F28, 0x1F2F, 1, 0x1F20), (0x1F38, 0x1F3F, 1, 0x1F30), (0x1F48, 0x1F4D, 1, 0x1F40),
    (0x1F59, 0x1F5F, 2, 0x1F51), (0x1F68, 0x1F6F, 1, 0x1F60), (0x2074, 0x2079, 1, 0x34),
    (0x2080, 0x2089, 1, 0x30), (0x2096, 0x2099, 1, 0x6B), (0x2135, 0x2138, 1, 0x5D0),
    (0x2460, 0x2468, 1, 0x31), (0x24B6, 0x24CF, 1, 0x61), (0x24D0, 0x24E9, 1, 0x61),
    (0x2C00, 0x2C2F, 1, 0x2C30), (0x2C80, 0x2CE2, 2, 0x2C81), (0x313A, 0x313F, 1, 0x11B0),
    (0x3145, 0x314E, 1, 0x1109), (0x314F, 0x3163, 1, 0x1161), (0x3178, 0x317C, 1, 0x112B),
    (0x3269, 0x326D, 1, 0x110E), (0x32E4, 0x32E9, 1, 0x30CA), (0x32EE, 0x32F2, 1, 0x30DE),
    (0x32F5, 0x32FA, 1, 0x30E8), (0x32FB, 0x32FE, 1, 0x30EF), (0xA640, 0xA66C, 2, 0xA641),
    (0xA680, 0xA69A, 2, 0xA681), (0xA722, 0xA72E, 2, 0xA723), (0xA732, 0xA76E, 2, 0xA733),
    (0xA77E, 0xA786, 2, 0xA77F), (0xA796, 0xA7A8, 2, 0xA797), (0xA7B4, 0xA7C2, 2, 0xA7B5),
    (0xA7CC, 0xA7DA, 2, 0xA7CD), (0xAB70, 0xABBF, 1, 0x13A0), (0xFE41, 0xFE44, 1, 0x300C),
    (0xFF01, 0xFF20, 1, 0x21), (0xFF21, 0xFF3A, 1, 0x61), (0xFF3B, 0xFF5E, 1, 0x5B),
    (0xFF85, 0xFF8A, 1, 0x30CA), (0xFF8F, 0xFF93, 1, 0x30DE), (0xFF96, 0xFF9B, 1, 0x30E8),
    (0xFFAA, 0xFFAF, 1, 0x11B0), (0xFFB5, 0xFFBE, 1, 0x1109), (0xFFC2, 0xFFC7, 1, 0x1161),
    (0xFFCA, 0xFFCF, 1, 0x1167), (0xFFD2, 0xFFD7, 1, 0x116D), (0xFFE9, 0xFFEC, 1, 0x2190),
    (0x10400, 0x10427, 1, 0x10428), (0x104B0, 0x104D3, 1, 0x104D8),
    (0x10570, 0x10594, 2, 0x10597), (0x10571, 0x10579, 2, 0x10598),
    (0x1057D, 0x10589, 2, 0x105A4), (0x10C80, 0x10CB2, 1, 0x10CC0),
    (0x10D50, 0x10D65, 1, 0x10D70), (0x118A0, 0x118BF, 1, 0x118C0),
    (0x16E40, 0x16E5F, 1, 0x16E60), (0x16EA0, 0x16EB8, 1, 0x16EBB), (0x1CCD6, 0x1CCEF, 1, 0x61),
    (0x1CCF0, 0x1CCF9, 1, 0x30), (0x1D400, 0x1D419, 1, 0x61), (0x1D41A, 0x1D433, 1, 0x61),
    (0x1D434, 0x1D44D, 1, 0x61), (0x1D44E, 0x1D466, 2, 0x61), (0x1D457, 0x1D467, 2, 0x6A),
    (0x1D468, 0x1D481, 1, 0x61), (0x1D482, 0x1D49B, 1, 0x61), (0x1D4A9, 0x1D4AC, 1, 0x6E),
    (0x1D4AE, 0x1D4B5, 1, 0x73), (0x1D4B6, 0x1D4B9, 1, 0x61), (0x1D4BB, 0x1D4CF, 2, 0x66),
    (0x1D4C6, 0x1D4CE, 2, 0x71), (0x1D4D0, 0x1D4E9, 1, 0x61), (0x1D4EA, 0x1D503, 1, 0x61),
    (0x1D507, 0x1D50A, 1, 0x64), (0x1D50D, 0x1D514, 1, 0x6A), (0x1D516, 0x1D51C, 1, 0x73),
    (0x1D51E, 0x1D537, 1, 0x61), (0x1D53B, 0x1D53E, 1, 0x64), (0x1D540, 0x1D544, 1, 0x69),
    (0x1D54A, 0x1D550, 1, 0x73), (0x1D552, 0x1D56B, 1, 0x61), (0x1D56C, 0x1D585, 1, 0x61),
    (0x1D586, 0x1D59F, 1, 0x61), (0x1D5A0, 0x1D5B9, 1, 0x61), (0x1D5BA, 0x1D5D3, 1, 0x61),
    (0x1D5D4, 0x1D5ED, 1, 0x61), (0x1D5EE, 0x1D607, 1, 0x61), (0x1D608, 0x1D621, 1, 0x61),
    (0x1D622, 0x1D63B, 1, 0x61), (0x1D63C, 0x1D655, 1, 0x61), (0x1D656, 0x1D66F, 1, 0x61),
    (0x1D670, 0x1D689, 1, 0x61), (0x1D68A, 0x1D6A3, 1, 0x61), (0x1D6A8, 0x1D6B8, 1, 0x3B1),
    (0x1D6BA, 0x1D6C0, 1, 0x3C3), (0x1D6C2, 0x1D6D2, 1, 0x3B1), (0x1D6D4, 0x1D6DA, 1, 0x3C3),
    (0x1D6E2, 0x1D6F2, 1, 0x3B1), (0x1D6F4, 0x1D6FA, 1, 0x3C3), (0x1D6FC, 0x1D70C, 1, 0x3B1),
    (0x1D70E, 0x1D714, 1, 0x3C3), (0x1D71C, 0x1D72C, 1, 0x3B1), (0x1D72E, 0x1D734, 1, 0x3C3),
    (0x1D736, 0x1D746, 1, 0x3B1), (0x1D748, 0x1D74E, 1, 0x3C3), (0x1D756, 0x1D766, 1, 0x3B1),
    (0x1D768, 0x1D76E, 1, 0x3C3), (0x1D770, 0x1D780, 1, 0x3B1), (0x1D782, 0x1D788, 1, 0x3C3),
    (0x1D790, 0x1D7A0, 1, 0x3B1), (0x1D7A2, 0x1D7A8, 1, 0x3C3), (0x1D7AA, 0x1D7BA, 1, 0x3B1),
    (0x1D7BC, 0x1D7C2, 1, 0x3C3), (0x1D7CE, 0x1D7D7, 1, 0x30), (0x1D7D8, 0x1D7E1, 1, 0x30),
    (0x1D7E2, 0x1D7EB, 1, 0x30), (0x1D7EC, 0x1D7F5, 1, 0x30), (0x1D7F6, 0x1D7FF, 1, 0x30),
    (0x1E030, 0x1E038, 1, 0x430), (0x1E03C, 0x1E046, 1, 0x43E), (0x1E051, 0x1E059, 1, 0x430),
    (0x1E05F, 0x1E064, 1, 0x443), (0x1E900, 0x1E921, 1, 0x1E922), (0x1EE0A, 0x1EE0D, 1, 0x643),
    (0x1EE2A, 0x1EE2D, 1, 0x643), (0x1F130, 0x1F149, 1, 0x61), (0x1FBF0, 0x1FBF9, 1, 0x30)]

/-- Consecutive characters that stand for one character each, by the first of them. -/
def letters : List (Nat × String) :=
  [(0xA0, " "), (0xAA, "a"), (0xB2, "23"), (0xB5, "\u03bc"), (0xB9, "1o"), (0x134, "\u0135"),
    (0x136, "\u0137"), (0x139, "\u013a"), (0x13B, "\u013c"), (0x13D, "\u013e"),
    (0x178, "\u00ff\u017a"), (0x17B, "\u017c"), (0x17D, "\u017e"), (0x17F, "s"),
    (0x181, "\u0253\u0183"), (0x184, "\u0185"), (0x186, "\u0254\u0188"),
    (0x189, "\u0256\u0257\u018c"), (0x18E, "\u01dd\u0259\u025b\u0192"), (0x193, "\u0260\u0263"),
    (0x196, "\u0269\u0268\u0199"), (0x19C, "\u026f\u0272"), (0x19F, "\u0275\u01a1"),
    (0x1A2, "\u01a3"), (0x1A4, "\u01a5"), (0x1A6, "\u0280\u01a8"), (0x1A9, "\u0283"),
    (0x1AC, "\u01ad"), (0x1AE, "\u0288\u01b0"), (0x1B1, "\u028a\u028b\u01b4"), (0x1B5, "\u01b6"),
    (0x1B7, "\u0292\u01b9"), (0x1BC, "\u01bd"), (0x1F4, "\u01f5"), (0x1F6, "\u0195\u01bf"),
    (0x220, "\u019e"), (0x23A, "\u2c65\u023c"), (0x23D, "\u019a\u2c66"), (0x241, "\u0242"),
    (0x243, "\u0180\u0289\u028c"), (0x2B0, "h\u0266jr\u0279\u027b\u0281wy"),
    (0x2E0, "\u0263lsx\u0295"), (0x340, "\u0300\u0301"), (0x343, "\u0313"), (0x345, "\u03b9"),
    (0x370, "\u0371"), (0x372, "\u0373"), (0x374, "\u02b9"), (0x376, "\u0377"),
    (0x37E, ";\u03f3"), (0x386, "\u03ac\u00b7\u03ad\u03ae\u03af"), (0x38C, "\u03cc"),
    (0x38E, "\u03cd\u03ce"), (0x3CF, "\u03d7\u03b2\u03b8\u03c5\u03cd\u03cb\u03c6\u03c0"),
    (0x3F0, "\u03ba\u03c1\u03c3"), (0x3F4, "\u03b8\u03b5"), (0x3F7, "\u03f8"),
    (0x3F9, "\u03c3\u03fb"), (0x3FD, "\u037b\u037c\u037d"), (0x4C0, "\u04cf"), (0xF0C, "\u0f0b"),
    (0x10C7, "\u2d27"), (0x10CD, "\u2d2d"), (0x10FC, "\u10dc"),
    (0x1C80, "\u0432\u0434\u043e\u0441\u0442\u0442\u044a\u0463\ua64b\u1c8a"),
    (0x1CBD, "\u10fd\u10fe\u10ff"), (0x1D2C, "a\u00e6b"), (0x1D30, "d"), (0x1D32, "\u01dd"),
    (0x1D3C, "o\u0223prtuwa\u0250\u0251\u1d02bde\u0259\u025b\u025cg"),
    (0x1D4F, "km\u014bo\u0254\u1d16\u1d17ptu\u1d1d\u026fv\u1d25\u03b2\u03b3\u03b4\u03c6"),
    (0x1D61, "\u03c7iruv\u03b2\u03b3\u03c1\u03c6\u03c7"), (0x1D78, "\u043d"),
    (0x1D9B, "\u0252c\u0255\u00f0\u025cf\u025f\u0261\u0265\u0268\u0269\u026a\u1d7b\u029d"),
    (0x1DA9, "\u026d\u1d85\u029f\u0271\u0270"),
    (0x1DB2, "\u0278\u0282\u0283\u01ab\u0289\u028a\u1d1c\u028b\u028cz\u0290\u0291\u0292"),
    (0x1DBF, "\u03b8"), (0x1E9B, "\u1e61"), (0x1E9E, "\u00df"), (0x1F71, "\u03ac"),
    (0x1F73, "\u03ad"), (0x1F75, "\u03ae"), (0x1F77, "\u03af"), (0x1F79, "\u03cc"),
    (0x1F7B, "\u03cd"), (0x1F7D, "\u03ce"), (0x1FB8, "\u1fb0\u1fb1\u1f70\u03ac"),
    (0x1FBE, "\u03b9"), (0x1FC8, "\u1f72\u03ad\u1f74\u03ae"), (0x1FD3, "\u0390"),
    (0x1FD8, "\u1fd0\u1fd1\u1f76\u03af"), (0x1FE3, "\u03b0"),
    (0x1FE8, "\u1fe0\u1fe1\u1f7a\u03cd\u1fe5"), (0x1FEF, "`"),
    (0x1FF8, "\u1f78\u03cc\u1f7c\u03ce"), (0x2000, "           "), (0x2011, "\u2010"),
    (0x202F, " "), (0x205F, " "), (0x2070, "0i"), (0x207A, "+\u2212=()n"), (0x208A, "+\u2212=()"),
    (0x2090, "aeox\u0259h"), (0x209A, "pst"), (0x2102, "c"), (0x2107, "\u025b"),
    (0x210A, "ghhhh\u0127iill"), (0x2115, "n"), (0x2119, "pqrrr"), (0x2124, "z"),
    (0x2126, "\u03c9"), (0x2128, "z"), (0x212A, "k\u00e5bc"), (0x212F, "eef\u214emo"),
    (0x2139, "i"), (0x213C, "\u03c0\u03b3\u03b3\u03c0\u2211"), (0x2145, "ddeij"), (0x2160, "i"),
    (0x2164, "v"), (0x2169, "x"), (0x216C, "lcdmi"), (0x2174, "v"), (0x2179, "x"),
    (0x217C, "lcdm"), (0x2183, "\u2184"), (0x2329, "\u3008\u3009"), (0x24EA, "0"),
    (0x2C60, "\u2c61"), (0x2C62, "\u026b\u1d7d\u027d"), (0x2C67, "\u2c68"), (0x2C69, "\u2c6a"),
    (0x2C6B, "\u2c6c"), (0x2C6D, "\u0251\u0271\u0250\u0252"), (0x2C72, "\u2c73"),
    (0x2C75, "\u2c76"), (0x2C7C, "jv\u023f\u0240"), (0x2CEB, "\u2cec"), (0x2CED, "\u2cee"),
    (0x2CF2, "\u2cf3"), (0x2D6F, "\u2d61"), (0x2E9F, "\u6bcd"), (0x2EF3, "\u9f9f"),
    (0x2F00, "\u4e00\u4e28\u4e36\u4e3f\u4e59\u4e85\u4e8c\u4ea0\u4eba\u513f\u5165\u516b\u5182"),
    (0x2F0D, "\u5196\u51ab\u51e0\u51f5\u5200\u529b\u52f9\u5315\u531a\u5338\u5341\u535c\u5369"),
    (0x2F1A, "\u5382\u53b6\u53c8\u53e3\u56d7\u571f\u58eb\u5902\u590a\u5915\u5927\u5973\u5b50"),
    (0x2F27, "\u5b80\u5bf8\u5c0f\u5c22\u5c38\u5c6e\u5c71\u5ddb\u5de5\u5df1\u5dfe\u5e72\u5e7a"),
    (0x2F34, "\u5e7f\u5ef4\u5efe\u5f0b\u5f13\u5f50\u5f61\u5f73\u5fc3\u6208\u6236\u624b\u652f"),
    (0x2F41, "\u6534\u6587\u6597\u65a4\u65b9\u65e0\u65e5\u66f0\u6708\u6728\u6b20\u6b62\u6b79"),
    (0x2F4E, "\u6bb3\u6bcb\u6bd4\u6bdb\u6c0f\u6c14\u6c34\u706b\u722a\u7236\u723b\u723f\u7247"),
    (0x2F5B, "\u7259\u725b\u72ac\u7384\u7389\u74dc\u74e6\u7518\u751f\u7528\u7530\u758b\u7592"),
    (0x2F68, "\u7676\u767d\u76ae\u76bf\u76ee\u77db\u77e2\u77f3\u793a\u79b8\u79be\u7a74\u7acb"),
    (0x2F75, "\u7af9\u7c73\u7cf8\u7f36\u7f51\u7f8a\u7fbd\u8001\u800c\u8012\u8033\u807f\u8089"),
    (0x2F82, "\u81e3\u81ea\u81f3\u81fc\u820c\u821b\u821f\u826e\u8272\u8278\u864d\u866b\u8840"),
    (0x2F8F, "\u884c\u8863\u897e\u898b\u89d2\u8a00\u8c37\u8c46\u8c55\u8c78\u8c9d\u8d64\u8d70"),
    (0x2F9C, "\u8db3\u8eab\u8eca\u8f9b\u8fb0\u8fb5\u9091\u9149\u91c6\u91cc\u91d1\u9577\u9580"),
    (0x2FA9, "\u961c\u96b6\u96b9\u96e8\u9751\u975e\u9762\u9769\u97cb\u97ed\u97f3\u9801\u98a8"),
    (0x2FB6, "\u98db\u98df\u9996\u9999\u99ac\u9aa8\u9ad8\u9adf\u9b25\u9b2f\u9b32\u9b3c\u9b5a"),
    (0x2FC3, "\u9ce5\u9e75\u9e7f\u9ea5\u9ebb\u9ec3\u9ecd\u9ed1\u9ef9\u9efd\u9f0e\u9f13\u9f20"),
    (0x2FD0, "\u9f3b\u9f4a\u9f52\u9f8d\u9f9c\u9fa0"), (0x3000, " "), (0x3002, "."),
    (0x3036, "\u3012"), (0x3038, "\u5341\u5344\u5345"),
    (0x3131, "\u1100\u1101\u11aa\u1102\u11ac\u11ad\u1103\u1104\u1105"),
    (0x3140, "\u111a\u1106\u1107\u1108\u1121"),
    (0x3165, "\u1114\u1115\u11c7\u11c8\u11cc\u11ce\u11d3\u11d7\u11d9\u111c\u11dd\u11df\u111d"),
    (0x3172, "\u111e\u1120\u1122\u1123\u1127\u1129"),
    (0x317D, "\u1132\u1136\u1140\u1147\u114c\u11f1\u11f2\u1157\u1158\u1159\u1184\u1185\u1188"),
    (0x318A, "\u1191\u1192\u1194\u119e\u11a1"),
    (0x3192, "\u4e00\u4e8c\u4e09\u56db\u4e0a\u4e2d\u4e0b\u7532\u4e59\u4e19\u4e01\u5929\u5730"),
    (0x319F, "\u4eba"), (0x3244, "\u554f\u5e7c\u6587\u7b8f"),
    (0x3260, "\u1100\u1102\u1103\u1105\u1106\u1107\u1109\u110b\u110c"),
    (0x326E, "\uac00\ub098\ub2e4\ub77c\ub9c8\ubc14\uc0ac\uc544\uc790\ucc28\uce74\ud0c0\ud30c"),
    (0x327B, "\ud558"), (0x327E, "\uc6b0"),
    (0x3280, "\u4e00\u4e8c\u4e09\u56db\u4e94\u516d\u4e03\u516b\u4e5d\u5341\u6708\u706b\u6c34"),
    (0x328D, "\u6728\u91d1\u571f\u65e5\u682a\u6709\u793e\u540d\u7279\u8ca1\u795d\u52b4\u79d8"),
    (0x329A, "\u7537\u5973\u9069\u512a\u5370\u6ce8\u9805\u4f11\u5199\u6b63\u4e0a\u4e2d\u4e0b"),
    (0x32A7, "\u5de6\u53f3\u533b\u5b97\u5b66\u76e3\u4f01\u8cc7\u5354\u591c"),
    (0x32D0, "\u30a2\u30a4\u30a6\u30a8\u30aa\u30ab\u30ad\u30af\u30b1\u30b3\u30b5\u30b7\u30b9"),
    (0x32DD, "\u30bb\u30bd\u30bf\u30c1\u30c4\u30c6\u30c8"), (0x32EA, "\u30d2\u30d5\u30d8\u30db"),
    (0x32F3, "\u30e4\u30e6"), (0xA69C, "\u044a\u044c"), (0xA770, "\ua76f"), (0xA779, "\ua77a"),
    (0xA77B, "\ua77c"), (0xA77D, "\u1d79"), (0xA78B, "\ua78c"), (0xA78D, "\u0265"),
    (0xA790, "\ua791"), (0xA792, "\ua793"), (0xA7AA, "\u0266\u025c\u0261\u026c\u026a"),
    (0xA7B0, "\u029e\u0287\u029d\uab53"), (0xA7C4, "\ua794\u0282\u1d8e\ua7c8"),
    (0xA7C9, "\ua7ca"), (0xA7CB, "\u0264"), (0xA7DC, "\u019b"), (0xA7F1, "scfq\ua7f6"),
    (0xA7F8, "\u0127\u0153"), (0xAB5C, "\ua727\uab37\u026b\uab52"), (0xAB69, "\u028d"),
    (0xF900, "\u8c48\u66f4\u8eca\u8cc8\u6ed1\u4e32\u53e5\u9f9c\u9f9c\u5951\u91d1\u5587\u5948"),
    (0xF90D, "\u61f6\u7669\u7f85\u863f\u87ba\u88f8\u908f\u6a02\u6d1b\u70d9\u73de\u843d\u916a"),
    (0xF91A, "\u99f1\u4e82\u5375\u6b04\u721b\u862d\u9e1e\u5d50\u6feb\u85cd\u8964\u62c9\u81d8"),
    (0xF927, "\u881f\u5eca\u6717\u6d6a\u72fc\u90ce\u4f86\u51b7\u52de\u64c4\u6ad3\u7210\u76e7"),
    (0xF934, "\u8001\u8606\u865c\u8def\u9732\u9b6f\u9dfa\u788c\u797f\u7da0\u83c9\u9304\u9e7f"),
    (0xF941, "\u8ad6\u58df\u5f04\u7c60\u807e\u7262\u78ca\u8cc2\u96f7\u58d8\u5c62\u6a13\u6dda"),
    (0xF94E, "\u6f0f\u7d2f\u7e37\u964b\u52d2\u808b\u51dc\u51cc\u7a1c\u7dbe\u83f1\u9675\u8b80"),
    (0xF95B, "\u62cf\u6a02\u8afe\u4e39\u5be7\u6012\u7387\u7570\u5317\u78fb\u4fbf\u5fa9\u4e0d"),
    (0xF968, "\u6ccc\u6578\u7d22\u53c3\u585e\u7701\u8449\u8aaa\u6bba\u8fb0\u6c88\u62fe\u82e5"),
    (0xF975, "\u63a0\u7565\u4eae\u5169\u51c9\u6881\u7ce7\u826f\u8ad2\u91cf\u52f5\u5442\u5973"),
    (0xF982, "\u5eec\u65c5\u6ffe\u792a\u95ad\u9a6a\u9e97\u9ece\u529b\u66c6\u6b77\u8f62\u5e74"),
    (0xF98F, "\u6190\u6200\u649a\u6f23\u7149\u7489\u79ca\u7df4\u806f\u8f26\u84ee\u9023\u934a"),
    (0xF99C, "\u5217\u52a3\u54bd\u70c8\u88c2\u8aaa\u5ec9\u5ff5\u637b\u6bae\u7c3e\u7375\u4ee4"),
    (0xF9A9, "\u56f9\u5be7\u5dba\u601c\u73b2\u7469\u7f9a\u8046\u9234\u96f6\u9748\u9818\u4f8b"),
    (0xF9B6, "\u79ae\u91b4\u96b8\u60e1\u4e86\u50da\u5bee\u5c3f\u6599\u6a02\u71ce\u7642\u84fc"),
    (0xF9C3, "\u907c\u9f8d\u6688\u962e\u5289\u677b\u67f3\u6d41\u6e9c\u7409\u7559\u786b\u7d10"),
    (0xF9D0, "\u985e\u516d\u622e\u9678\u502b\u5d19\u6dea\u8f2a\u5f8b\u6144\u6817\u7387\u9686"),
    (0xF9DD, "\u5229\u540f\u5c65\u6613\u674e\u68a8\u6ce5\u7406\u75e2\u7f79\u88cf\u88e1\u91cc"),
    (0xF9EA, "\u96e2\u533f\u6eba\u541d\u71d0\u7498\u85fa\u96a3\u9c57\u9e9f\u6797\u6dcb\u81e8"),
    (0xF9F7, "\u7acb\u7b20\u7c92\u72c0\u7099\u8b58\u4ec0\u8336\u523a\u5207\u5ea6\u62d3\u7cd6"),
    (0xFA04, "\u5b85\u6d1e\u66b4\u8f3b\u884c\u964d\u898b\u5ed3\u5140\u55c0"), (0xFA10, "\u585a"),
    (0xFA12, "\u6674"), (0xFA15, "\u51de\u732a\u76ca\u793c\u795e\u7965\u798f\u9756\u7cbe\u7fbd"),
    (0xFA20, "\u8612"), (0xFA22, "\u8af8"), (0xFA25, "\u9038\u90fd"),
    (0xFA2A, "\u98ef\u98fc\u9928\u9db4\u90de\u96b7\u4fae\u50e7\u514d\u52c9\u52e4\u5351\u559d"),
    (0xFA37, "\u5606\u5668\u5840\u58a8\u5c64\u5c6e\u6094\u6168\u618e\u61f2\u654f\u65e2\u6691"),
    (0xFA44, "\u6885\u6d77\u6e1a\u6f22\u716e\u722b\u7422\u7891\u793e\u7949\u7948\u7950\u7956"),
    (0xFA51, "\u795d\u798d\u798e\u7a40\u7a81\u7bc0\u7df4\u7e09\u7e41\u7f72\u8005\u81ed\u8279"),
    (0xFA5E, "\u8279\u8457\u8910\u8996\u8b01\u8b39\u8cd3\u8d08\u8fb6\u9038\u96e3\u97ff\u983b"),
    (0xFA6B, "\u6075𤋮\u8218"),
    (0xFA70, "\u4e26\u51b5\u5168\u4f80\u5145\u5180\u52c7\u52fa\u559d\u5555\u5599\u55e2\u585a"),
    (0xFA7D, "\u58b3\u5944\u5954\u5a62\u5b28\u5ed2\u5ed9\u5f69\u5fad\u60d8\u614e\u6108\u618e"),
    (0xFA8A, "\u6160\u61f2\u6234\u63c4\u641c\u6452\u6556\u6674\u6717\u671b\u6756\u6b79\u6bba"),
    (0xFA97, "\u6d41\u6edb\u6ecb\u6f22\u701e\u716e\u77a7\u7235\u72af\u732a\u7471\u7506\u753b"),
    (0xFAA4, "\u761d\u761f\u76ca\u76db\u76f4\u774a\u7740\u78cc\u7ab1\u7bc0\u7c7b\u7d5b\u7df4"),
    (0xFAB1, "\u7f3e\u8005\u8352\u83ef\u8779\u8941\u8986\u8996\u8abf\u8af8\u8acb\u8b01\u8afe"),
    (0xFABE, "\u8aed\u8b39\u8b8a\u8d08\u8f38\u9072\u9199\u9276\u967c\u96e3\u9756\u97db\u97ff"),
    (0xFACB, "\u980b\u983b\u9b12\u9f9c𢡊𢡄𣏕\u3b9d\u4018\u4039𥉉𥳐𧻓\u9f43\u9f8e"),
    (0xFB20, "\u05e2\u05d0\u05d3\u05d4\u05db\u05dc\u05dd\u05e8\u05ea+"),
    (0xFB50, "\u0671\u0671\u067b\u067b\u067b\u067b\u067e\u067e\u067e\u067e\u0680\u0680\u0680"),
    (0xFB5D, "\u0680\u067a\u067a\u067a\u067a\u067f\u067f\u067f\u067f\u0679\u0679\u0679\u0679"),
    (0xFB6A, "\u06a4\u06a4\u06a4\u06a4\u06a6\u06a6\u06a6\u06a6\u0684\u0684\u0684\u0684\u0683"),
    (0xFB77, "\u0683\u0683\u0683\u0686\u0686\u0686\u0686\u0687\u0687\u0687\u0687\u068d\u068d"),
    (0xFB84, "\u068c\u068c\u068e\u068e\u0688\u0688\u0698\u0698\u0691\u0691\u06a9\u06a9\u06a9"),
    (0xFB91, "\u06a9\u06af\u06af\u06af\u06af\u06b3\u06b3\u06b3\u06b3\u06b1\u06b1\u06b1\u06b1"),
    (0xFB9E, "\u06ba\u06ba\u06bb\u06bb\u06bb\u06bb\u06c0\u06c0\u06c1\u06c1\u06c1\u06c1\u06be"),
    (0xFBAB, "\u06be\u06be\u06be\u06d2\u06d2\u06d3\u06d3"),
    (0xFBD3, "\u06ad\u06ad\u06ad\u06ad\u06c7\u06c7\u06c6\u06c6\u06c8\u06c8"),
    (0xFBDE, "\u06cb\u06cb\u06c5\u06c5\u06c9\u06c9\u06d0\u06d0\u06d0\u06d0\u0649\u0649"),
    (0xFBFC, "\u06cc\u06cc\u06cc\u06cc"), (0xFE10, ",\u3001"), (0xFE13, ":;!?\u3016\u3017"),
    (0xFE31, "\u2014\u2013__()\x7b\x7d\u3014\u3015\u3010\u3011\u300a\u300b\u3008\u3009"),
    (0xFE47, "[]"), (0xFE4D, "___,\u3001"), (0xFE54, ";:?!\u2014()\x7b\x7d\u3014\u3015#&*+-<>="),
    (0xFE68, "\\$%@"),
    (0xFE80, "\u0621\u0622\u0622\u0623\u0623\u0624\u0624\u0625\u0625\u0626\u0626\u0626\u0626"),
    (0xFE8D, "\u0627\u0627\u0628\u0628\u0628\u0628\u0629\u0629\u062a\u062a\u062a\u062a\u062b"),
    (0xFE9A, "\u062b\u062b\u062b\u062c\u062c\u062c\u062c\u062d\u062d\u062d\u062d\u062e\u062e"),
    (0xFEA7, "\u062e\u062e\u062f\u062f\u0630\u0630\u0631\u0631\u0632\u0632\u0633\u0633\u0633"),
    (0xFEB4, "\u0633\u0634\u0634\u0634\u0634\u0635\u0635\u0635\u0635\u0636\u0636\u0636\u0636"),
    (0xFEC1, "\u0637\u0637\u0637\u0637\u0638\u0638\u0638\u0638\u0639\u0639\u0639\u0639\u063a"),
    (0xFECE, "\u063a\u063a\u063a\u0641\u0641\u0641\u0641\u0642\u0642\u0642\u0642\u0643\u0643"),
    (0xFEDB, "\u0643\u0643\u0644\u0644\u0644\u0644\u0645\u0645\u0645\u0645\u0646\u0646\u0646"),
    (0xFEE8, "\u0646\u0647\u0647\u0647\u0647\u0648\u0648\u0649\u0649\u064a\u064a\u064a\u064a"),
    (0xFF5F, "\u2985\u2986.\u300c\u300d\u3001\u30fb\u30f2\u30a1\u30a3\u30a5\u30a7\u30a9"),
    (0xFF6C, "\u30e3\u30e5\u30e7\u30c3\u30fc\u30a2\u30a4\u30a6\u30a8\u30aa\u30ab\u30ad\u30af"),
    (0xFF79, "\u30b1\u30b3\u30b5\u30b7\u30b9\u30bb\u30bd\u30bf\u30c1\u30c4\u30c6\u30c8"),
    (0xFF8B, "\u30d2\u30d5\u30d8\u30db"), (0xFF94, "\u30e4\u30e6"),
    (0xFF9C, "\u30ef\u30f3\u3099\u309a"),
    (0xFFA1, "\u1100\u1101\u11aa\u1102\u11ac\u11ad\u1103\u1104\u1105"),
    (0xFFB0, "\u111a\u1106\u1107\u1108\u1121"), (0xFFDA, "\u1173\u1174\u1175"),
    (0xFFE0, "\u00a2\u00a3\u00ac"), (0xFFE4, "\u00a6\u00a5\u20a9"), (0xFFE8, "\u2502"),
    (0xFFED, "\u25a0\u25cb"), (0x1058D, "𐖴"), (0x1058F, "𐖶"), (0x10591, "𐖸"), (0x10595, "𐖼"),
    (0x10781, "\u02d0\u02d1\u00e6\u0299\u0253"),
    (0x10787, "\u02a3\uab66\u02a5\u02a4\u0256\u0257\u1d91\u0258\u025e\u02a9\u0264\u0262\u0260"),
    (0x10794, "\u029b\u0127\u029c\u0267\u0284\u02aa\u02ab\u026c𝼄\ua78e\u026e𝼅\u028e𝼆\u00f8"),
    (0x107A3, "\u0276\u0277q\u027a𝼈\u027d\u027e\u0280\u02a8\u02a6\uab67\u02a7\u0288\u2c71"),
    (0x107B2, "\u028f\u02a1\u02a2\u0298\u01c0\u01c1\u01c2𝼊𝼞"), (0x1D44F, "b"), (0x1D451, "d"),
    (0x1D453, "f"), (0x1D49C, "a"), (0x1D49E, "cd"), (0x1D4A2, "g"), (0x1D4A5, "jk"),
    (0x1D4BE, "i"), (0x1D4C0, "k"), (0x1D4C2, "m"), (0x1D504, "ab"), (0x1D538, "ab"),
    (0x1D546, "o"), (0x1D6A4, "\u0131\u0237"), (0x1D6B9, "\u03b8"), (0x1D6C1, "\u2207"),
    (0x1D6D3, "\u03c3"), (0x1D6DB, "\u2202\u03b5\u03b8\u03ba\u03c6\u03c1\u03c0"),
    (0x1D6F3, "\u03b8"), (0x1D6FB, "\u2207"), (0x1D70D, "\u03c3"),
    (0x1D715, "\u2202\u03b5\u03b8\u03ba\u03c6\u03c1\u03c0"), (0x1D72D, "\u03b8"),
    (0x1D735, "\u2207"), (0x1D747, "\u03c3"),
    (0x1D74F, "\u2202\u03b5\u03b8\u03ba\u03c6\u03c1\u03c0"), (0x1D767, "\u03b8"),
    (0x1D76F, "\u2207"), (0x1D781, "\u03c3"),
    (0x1D789, "\u2202\u03b5\u03b8\u03ba\u03c6\u03c1\u03c0"), (0x1D7A1, "\u03b8"),
    (0x1D7A9, "\u2207"), (0x1D7BB, "\u03c3"),
    (0x1D7C3, "\u2202\u03b5\u03b8\u03ba\u03c6\u03c1\u03c0\u03dd\u03dd"),
    (0x1E039, "\u043a\u043b\u043c"),
    (0x1E047, "\u044b\u044d\u044e\ua689\u04d9\u0456\u0458\u04e9\u04af\u04cf"),
    (0x1E05A, "\u043a\u043b\u043e\u043f\u0441"),
    (0x1E065, "\u044a\u044b\u0491\u0456\u0455\u045f\u04ab\ua651\u04b1"),
    (0x1EE00, "\u0627\u0628\u062c\u062f"), (0x1EE05, "\u0648\u0632\u062d\u0637\u064a"),
    (0x1EE0E, "\u0633\u0639\u0641\u0635\u0642\u0631\u0634\u062a\u062b\u062e\u0630\u0636\u0638"),
    (0x1EE1B, "\u063a\u066e\u06ba\u06a1\u066f"), (0x1EE21, "\u0628\u062c"), (0x1EE24, "\u0647"),
    (0x1EE27, "\u062d"), (0x1EE29, "\u064a"), (0x1EE2E, "\u0633\u0639\u0641\u0635\u0642"),
    (0x1EE34, "\u0634\u062a\u062b\u062e"), (0x1EE39, "\u0636"), (0x1EE3B, "\u063a"),
    (0x1EE42, "\u062c"), (0x1EE47, "\u062d"), (0x1EE49, "\u064a"), (0x1EE4B, "\u0644"),
    (0x1EE4D, "\u0646\u0633\u0639"), (0x1EE51, "\u0635\u0642"), (0x1EE54, "\u0634"),
    (0x1EE57, "\u062e"), (0x1EE59, "\u0636"), (0x1EE5B, "\u063a"), (0x1EE5D, "\u06ba"),
    (0x1EE5F, "\u066f"), (0x1EE61, "\u0628\u062c"), (0x1EE64, "\u0647"),
    (0x1EE67, "\u062d\u0637\u064a\u0643"),
    (0x1EE6C, "\u0645\u0646\u0633\u0639\u0641\u0635\u0642"),
    (0x1EE74, "\u0634\u062a\u062b\u062e"), (0x1EE79, "\u0636\u0638\u063a\u066e"),
    (0x1EE7E, "\u06a1"),
    (0x1EE80, "\u0627\u0628\u062c\u062f\u0647\u0648\u0632\u062d\u0637\u064a"),
    (0x1EE8B, "\u0644\u0645\u0646\u0633\u0639\u0641\u0635\u0642\u0631\u0634\u062a\u062b\u062e"),
    (0x1EE98, "\u0630\u0636\u0638\u063a"), (0x1EEA1, "\u0628\u062c\u062f"),
    (0x1EEA5, "\u0648\u0632\u062d\u0637\u064a"),
    (0x1EEAB, "\u0644\u0645\u0646\u0633\u0639\u0641\u0635\u0642\u0631\u0634\u062a\u062b\u062e"),
    (0x1EEB8, "\u0630\u0636\u0638\u063a"), (0x1F12B, "cr"), (0x1F202, "\u30b5"),
    (0x1F210, "\u624b\u5b57\u53cc\u30c7\u4e8c\u591a\u89e3\u5929\u4ea4\u6620\u7121\u6599\u524d"),
    (0x1F21D, "\u5f8c\u518d\u65b0\u521d\u7d42\u751f\u8ca9\u58f0\u5439\u6f14\u6295\u6355\u4e00"),
    (0x1F22A, "\u4e09\u904a\u5de6\u4e2d\u53f3\u6307\u8d70\u6253\u7981\u7a7a\u5408\u6e80\u6709"),
    (0x1F237, "\u6708\u7533\u5272\u55b6\u914d"), (0x1F250, "\u5f97\u53ef"),
    (0x2F800, "\u4e3d\u4e38\u4e41𠄢\u4f60\u4fae\u4fbb\u5002\u507a\u5099\u50e7\u50cf\u349e𠘺"),
    (0x2F80E, "\u514d\u5154\u5164\u5177𠔜\u34b9\u5167\u518d𠕋\u5197\u51a4\u4ecc\u51ac\u51b5𩇟"),
    (0x2F81D, "\u51f5\u5203\u34df\u523b\u5246\u5272\u5277\u3515\u52c7\u52c9\u52e4\u52fa\u5305"),
    (0x2F82A, "\u5306\u5317\u5349\u5351\u535a\u5373\u537d\u537f\u537f\u537f𠨬\u7070\u53ca"),
    (0x2F837, "\u53df𠭣\u53eb\u53f1\u5406\u549e\u5438\u5448\u5468\u54a2\u54f6\u5510\u5553"),
    (0x2F844, "\u5563\u5584\u5584\u5599\u55ab\u55b3\u55c2\u5716\u5606\u5717\u5651\u5674\u5207"),
    (0x2F851, "\u58ee\u57ce\u57f4\u580d\u578b\u5832\u5831\u58ac𡓤\u58f2\u58f7\u5906\u591a"),
    (0x2F85E, "\u5922\u5962𡚨𡛪\u59ec\u5a1b\u5a27\u59d8\u5a66\u36ee\u36fc\u5b08\u5b3e\u5b3e𡧈"),
    (0x2F86D, "\u5bc3\u5bd8\u5be7\u5bf3𡬘\u5bff\u5c06\u5f53\u5c22\u3781\u5c60\u5c6e\u5cc0"),
    (0x2F87A, "\u5c8d𡷤\u5d43𡷦\u5d6e\u5d6b\u5d7c\u5de1\u5de2\u382f\u5dfd\u5e28\u5e3d\u5e69"),
    (0x2F888, "\u3862𢆃\u387c\u5eb0\u5eb3\u5eb6\u5eca𪎒\u5efe𢌱𢌱\u8201\u5f22\u5f22\u38c7𣊸𦇚\u5f62"),
    (0x2F89A, "\u5f6b\u38e3\u5f9a\u5fcd\u5fd7\u5ff9\u6081\u393a\u391c\u6094𢛔\u60c7\u6148"),
    (0x2F8A7, "\u614c\u614e\u614c\u617a\u618e\u61b2\u61a4\u61af\u61de\u61f2\u61f6\u6210\u621b"),
    (0x2F8B4, "\u625d\u62b1\u62d4\u6350𢬌\u633d\u62fc\u6368\u6383\u63e4𢯱\u6422\u63c5\u63a9"),
    (0x2F8C2, "\u3a2e\u6469\u647e\u649d\u6477\u3a6c\u654f\u656c𣀊\u65e3\u66f8\u6649\u3b19"),
    (0x2F8CF, "\u6691\u3b08\u3ae4\u5192\u5195\u6700\u669c\u80ad\u43d9\u6717\u671b\u6721\u675e"),
    (0x2F8DC, "\u6753𣏃\u3b49\u67fa\u6785\u6852\u6885𣑭\u688e\u681f\u6914\u3b9d\u6942\u69a3"),
    (0x2F8EA, "\u69ea\u6aa8𣚣\u6adb\u3c18\u6b21𣢧\u6b54\u3c4e\u6b72\u6b9f\u6bba\u6bbb𣪍𡴋𣫺\u6c4e𣲼"),
    (0x2F8FC, "\u6cbf\u6ccd\u6c67\u6d16\u6d3e\u6d77\u6d41\u6d69\u6d78\u6d85𣴞\u6d34\u6e2f"),
    (0x2F909, "\u6e6e\u3d33\u6ecb\u6ec7𣻑\u6df9\u6f6e𣽞𣾎\u6fc6\u7039\u701e\u701b\u3d96\u704a"),
    (0x2F918, "\u707d\u7077\u70ad𠔥\u7145𤉣\u719c𤎫\u7228\u7235\u7250𤘈\u7280\u7295𤜵𤠔\u737a\u738b"),
    (0x2F92A, "\u3eac\u73a5\u3eb8\u3eb8\u7447\u745c\u7471\u7485\u74ca\u3f1b\u7524𤰶\u753e𤲒"),
    (0x2F938, "\u7570𢆟\u7610𤾡𤾸𥁄\u3ffc\u4008\u76f4𥃳𥃲𥄙𥄳\u771e\u771f\u771f\u774a\u4039\u778b"),
    (0x2F94B, "\u4046\u4096𥐝\u784e\u788c\u78cc\u40e3𥘦\u7956𥚚𥛅\u798f\u79eb\u412f\u7a40\u7a4a"),
    (0x2F95B, "\u7a4f𥥼𥪧𥪧\u7aee\u4202𥮫\u7bc6\u7bc9\u4227𥲀\u7cd2\u42a0\u7ce8\u7ce3\u7d00𥾆\u7d63"),
    (0x2F96D, "\u4301\u7dc7\u7e02\u7e45\u4334𦈨𦉇\u4359𦋙\u7f7a𦌾\u7f95\u7ffa\u8005𦓚𦔣\u8060𦖨"),
    (0x2F97F, "\u8070𣍟\u43d5\u80b2\u8103\u440b\u813e\u5ab5𦞧𦞵𣎓𣎜\u8201\u8204\u8f9e\u446b\u8291"),
    (0x2F990, "\u828b\u829d\u52b3\u82b1\u82b3\u82bd\u82e6𦬼\u82e5\u831d\u8363\u83ad\u8323"),
    (0x2F99D, "\u83bd\u83e7\u8457\u8353\u83ca\u83cc\u83dc𦰶𦵫𦳕\u452b\u84f1\u84f3\u8516𧏊\u8564𦼬"),
    (0x2F9AE, "\u455d\u4561𦾱𧃒\u456b\u8650\u865c\u8667\u8669\u86a9\u8688\u870e\u86e2\u8779"),
    (0x2F9BC, "\u8728\u876b\u8786\u45d7\u87e1\u8801\u45f9\u8860\u8863𧙧\u88d7\u88de\u4635"),
    (0x2F9C9, "\u88fa\u34bb𧢮𧥦\u46be\u46c7\u8aa0\u8aed\u8b8a\u8c55𧲨\u8cab\u8cc1\u8d1b\u8d77𧼯𠠄"),
    (0x2F9DA, "\u8dcb\u8dbc\u8df0𠣞\u8ed4\u8f38𨗒𨗭\u9094\u90f1\u9111𨜮\u911b\u9238\u92d7\u92d8"),
    (0x2F9EA, "\u927c\u93f9\u9415𨯺\u958b\u4995\u95b7𨵷\u49e6\u96c3\u5db2\u9723𩅅𩈚\u4a6e\u4a76"),
    (0x2F9FA, "\u97e0𩐊\u4ab2𩒖\u980b\u980b\u9829𩖶\u98e2\u4b33\u9929\u99a7\u99c2\u99fe\u4bce𩬰"),
    (0x2FA0A, "\u9b12\u9c40\u9cfd\u4cce\u4ced\u9d67𪃎\u4cf8𪄅𪈎𪊑\u9ebb\u4d56\u9ef9\u9efe\u9f05"),
    (0x2FA1A, "\u9f0f\u9f16\u9f3b𪘀")]

/-- Consecutive characters that stand for several characters each, by the first of them. -/
def texts : List (Nat × List String) :=
  [(0xA8, [" \u0308"]), (0xAF, [" \u0304"]), (0xB4, [" \u0301"]), (0xB8, [" \u0327"]),
    (0xBC, ["1\u20444", "1\u20442", "3\u20444"]), (0x130, ["i\u0307"]), (0x132, ["ij", "ij"]),
    (0x13F, ["l\u00b7", "l\u00b7"]), (0x149, ["\u02bcn"]),
    (0x1C4, ["d\u017e", "d\u017e", "d\u017e", "lj", "lj", "lj", "nj", "nj", "nj"]),
    (0x1F1, ["dz", "dz", "dz"]),
    (0x2D8, [" \u0306", " \u0307", " \u030a", " \u0328", " \u0303", " \u030b"]),
    (0x344, ["\u0308\u0301"]), (0x37A, [" \u03b9"]), (0x384, [" \u0301", " \u0308\u0301"]),
    (0x587, ["\u0565\u0582"]),
    (0x675, ["\u0627\u0674", "\u0648\u0674", "\u06c7\u0674", "\u064a\u0674"]),
    (0x958, ["\u0915\u093c", "\u0916\u093c", "\u0917\u093c", "\u091c\u093c", "\u0921\u093c"]),
    (0x95D, ["\u0922\u093c", "\u092b\u093c", "\u092f\u093c"]),
    (0x9DC, ["\u09a1\u09bc", "\u09a2\u09bc"]), (0x9DF, ["\u09af\u09bc"]),
    (0xA33, ["\u0a32\u0a3c"]), (0xA36, ["\u0a38\u0a3c"]),
    (0xA59, ["\u0a16\u0a3c", "\u0a17\u0a3c", "\u0a1c\u0a3c"]), (0xA5E, ["\u0a2b\u0a3c"]),
    (0xB5C, ["\u0b21\u0b3c", "\u0b22\u0b3c"]), (0xE33, ["\u0e4d\u0e32"]),
    (0xEB3, ["\u0ecd\u0eb2"]), (0xEDC, ["\u0eab\u0e99", "\u0eab\u0ea1"]),
    (0xF43, ["\u0f42\u0fb7"]), (0xF4D, ["\u0f4c\u0fb7"]), (0xF52, ["\u0f51\u0fb7"]),
    (0xF57, ["\u0f56\u0fb7"]), (0xF5C, ["\u0f5b\u0fb7"]), (0xF69, ["\u0f40\u0fb5"]),
    (0xF73, ["\u0f71\u0f72"]),
    (0xF75, ["\u0f71\u0f74", "\u0fb2\u0f80", "\u0fb2\u0f71\u0f80", "\u0fb3\u0f80"]),
    (0xF79, ["\u0fb3\u0f71\u0f80"]), (0xF81, ["\u0f71\u0f80"]), (0xF93, ["\u0f92\u0fb7"]),
    (0xF9D, ["\u0f9c\u0fb7"]), (0xFA2, ["\u0fa1\u0fb7"]), (0xFA7, ["\u0fa6\u0fb7"]),
    (0xFAC, ["\u0fab\u0fb7"]), (0xFB9, ["\u0f90\u0fb5"]), (0x1E9A, ["a\u02be"]),
    (0x1F80, ["\u1f00\u03b9", "\u1f01\u03b9", "\u1f02\u03b9", "\u1f03\u03b9", "\u1f04\u03b9"]),
    (0x1F85, ["\u1f05\u03b9", "\u1f06\u03b9", "\u1f07\u03b9", "\u1f00\u03b9", "\u1f01\u03b9"]),
    (0x1F8A, ["\u1f02\u03b9", "\u1f03\u03b9", "\u1f04\u03b9", "\u1f05\u03b9", "\u1f06\u03b9"]),
    (0x1F8F, ["\u1f07\u03b9", "\u1f20\u03b9", "\u1f21\u03b9", "\u1f22\u03b9", "\u1f23\u03b9"]),
    (0x1F94, ["\u1f24\u03b9", "\u1f25\u03b9", "\u1f26\u03b9", "\u1f27\u03b9", "\u1f20\u03b9"]),
    (0x1F99, ["\u1f21\u03b9", "\u1f22\u03b9", "\u1f23\u03b9", "\u1f24\u03b9", "\u1f25\u03b9"]),
    (0x1F9E, ["\u1f26\u03b9", "\u1f27\u03b9", "\u1f60\u03b9", "\u1f61\u03b9", "\u1f62\u03b9"]),
    (0x1FA3, ["\u1f63\u03b9", "\u1f64\u03b9", "\u1f65\u03b9", "\u1f66\u03b9", "\u1f67\u03b9"]),
    (0x1FA8, ["\u1f60\u03b9", "\u1f61\u03b9", "\u1f62\u03b9", "\u1f63\u03b9", "\u1f64\u03b9"]),
    (0x1FAD, ["\u1f65\u03b9", "\u1f66\u03b9", "\u1f67\u03b9"]),
    (0x1FB2, ["\u1f70\u03b9", "\u03b1\u03b9", "\u03ac\u03b9"]), (0x1FB7, ["\u1fb6\u03b9"]),
    (0x1FBC, ["\u03b1\u03b9", " \u0313"]),
    (0x1FBF, [" \u0313", " \u0342", " \u0308\u0342", "\u1f74\u03b9", "\u03b7\u03b9"]),
    (0x1FC4, ["\u03ae\u03b9"]), (0x1FC7, ["\u1fc6\u03b9"]),
    (0x1FCC, ["\u03b7\u03b9", " \u0313\u0300", " \u0313\u0301", " \u0313\u0342"]),
    (0x1FDD, [" \u0314\u0300", " \u0314\u0301", " \u0314\u0342"]),
    (0x1FED, [" \u0308\u0300", " \u0308\u0301"]),
    (0x1FF2, ["\u1f7c\u03b9", "\u03c9\u03b9", "\u03ce\u03b9"]), (0x1FF7, ["\u1ff6\u03b9"]),
    (0x1FFC, ["\u03c9\u03b9", " \u0301", " \u0314"]), (0x2017, [" \u0333"]),
    (0x2033, ["\u2032\u2032", "\u2032\u2032\u2032"]),
    (0x2036, ["\u2035\u2035", "\u2035\u2035\u2035"]), (0x203C, ["!!"]), (0x203E, [" \u0305"]),
    (0x2047, ["??", "?!", "!?"]), (0x2057, ["\u2032\u2032\u2032\u2032"]), (0x20A8, ["rs"]),
    (0x2100, ["a/c", "a/s"]), (0x2103, ["\u00b0c"]), (0x2105, ["c/o", "c/u"]),
    (0x2109, ["\u00b0f"]), (0x2116, ["no"]), (0x2120, ["sm", "tel", "tm"]), (0x213B, ["fax"]),
    (0x2150, ["1\u20447", "1\u20449", "1\u204410", "1\u20443", "2\u20443", "1\u20445"]),
    (0x2156, ["2\u20445", "3\u20445", "4\u20445", "1\u20446", "5\u20446", "1\u20448"]),
    (0x215C, ["3\u20448", "5\u20448", "7\u20448", "1\u2044"]), (0x2161, ["ii", "iii", "iv"]),
    (0x2165, ["vi", "vii", "viii", "ix"]), (0x216A, ["xi", "xii"]), (0x2171, ["ii", "iii", "iv"]),
    (0x2175, ["vi", "vii", "viii", "ix"]), (0x217A, ["xi", "xii"]), (0x2189, ["0\u20443"]),
    (0x222C, ["\u222b\u222b", "\u222b\u222b\u222b"]),
    (0x222F, ["\u222e\u222e", "\u222e\u222e\u222e"]),
    (0x2469, ["10", "11", "12", "13", "14", "15", "16", "17", "18", "19", "20", "(1)", "(2)"]),
    (0x2476, ["(3)", "(4)", "(5)", "(6)", "(7)", "(8)", "(9)", "(10)", "(11)", "(12)"]),
    (0x2480, ["(13)", "(14)", "(15)", "(16)", "(17)", "(18)", "(19)", "(20)"]),
    (0x249C, ["(a)", "(b)", "(c)", "(d)", "(e)", "(f)", "(g)", "(h)", "(i)", "(j)", "(k)"]),
    (0x24A7, ["(l)", "(m)", "(n)", "(o)", "(p)", "(q)", "(r)", "(s)", "(t)", "(u)", "(v)"]),
    (0x24B2, ["(w)", "(x)", "(y)", "(z)"]), (0x2A0C, ["\u222b\u222b\u222b\u222b"]),
    (0x2A74, ["::=", "==", "==="]), (0x2ADC, ["\u2add\u0338"]), (0x309B, [" \u3099", " \u309a"]),
    (0x309F, ["\u3088\u308a"]), (0x30FF, ["\u30b3\u30c8"]),
    (0x3200, ["(\u1100)", "(\u1102)", "(\u1103)", "(\u1105)", "(\u1106)", "(\u1107)"]),
    (0x3206, ["(\u1109)", "(\u110b)", "(\u110c)", "(\u110e)", "(\u110f)", "(\u1110)"]),
    (0x320C, ["(\u1111)", "(\u1112)", "(\uac00)", "(\ub098)", "(\ub2e4)", "(\ub77c)"]),
    (0x3212, ["(\ub9c8)", "(\ubc14)", "(\uc0ac)", "(\uc544)", "(\uc790)", "(\ucc28)"]),
    (0x3218, ["(\uce74)", "(\ud0c0)", "(\ud30c)", "(\ud558)", "(\uc8fc)", "(\uc624\uc804)"]),
    (0x321E, ["(\uc624\ud6c4)"]),
    (0x3220, ["(\u4e00)", "(\u4e8c)", "(\u4e09)", "(\u56db)", "(\u4e94)", "(\u516d)"]),
    (0x3226, ["(\u4e03)", "(\u516b)", "(\u4e5d)", "(\u5341)", "(\u6708)", "(\u706b)"]),
    (0x322C, ["(\u6c34)", "(\u6728)", "(\u91d1)", "(\u571f)", "(\u65e5)", "(\u682a)"]),
    (0x3232, ["(\u6709)", "(\u793e)", "(\u540d)", "(\u7279)", "(\u8ca1)", "(\u795d)"]),
    (0x3238, ["(\u52b4)", "(\u4ee3)", "(\u547c)", "(\u5b66)", "(\u76e3)", "(\u4f01)"]),
    (0x323E, ["(\u8cc7)", "(\u5354)", "(\u796d)", "(\u4f11)", "(\u81ea)", "(\u81f3)"]),
    (0x3250, ["pte", "21", "22", "23", "24", "25", "26", "27", "28", "29", "30", "31", "32"]),
    (0x325D, ["33", "34", "35"]), (0x327C, ["\ucc38\uace0", "\uc8fc\uc758"]),
    (0x32B1, ["36", "37", "38", "39", "40", "41", "42", "43", "44", "45", "46", "47", "48"]),
    (0x32BE, ["49", "50", "1\u6708", "2\u6708", "3\u6708", "4\u6708", "5\u6708", "6\u6708"]),
    (0x32C6, ["7\u6708", "8\u6708", "9\u6708", "10\u6708", "11\u6708", "12\u6708", "hg"]),
    (0x32CD, ["erg", "ev", "ltd"]),
    (0x32FF, ["\u4ee4\u548c", "\u30a2\u30d1\u30fc\u30c8", "\u30a2\u30eb\u30d5\u30a1"]),
    (0x3302, ["\u30a2\u30f3\u30da\u30a2", "\u30a2\u30fc\u30eb", "\u30a4\u30cb\u30f3\u30b0"]),
    (0x3305, ["\u30a4\u30f3\u30c1", "\u30a6\u30a9\u30f3", "\u30a8\u30b9\u30af\u30fc\u30c9"]),
    (0x3308, ["\u30a8\u30fc\u30ab\u30fc", "\u30aa\u30f3\u30b9", "\u30aa\u30fc\u30e0"]),
    (0x330B, ["\u30ab\u30a4\u30ea", "\u30ab\u30e9\u30c3\u30c8", "\u30ab\u30ed\u30ea\u30fc"]),
    (0x330E, ["\u30ac\u30ed\u30f3", "\u30ac\u30f3\u30de", "\u30ae\u30ac"]),
    (0x3311, ["\u30ae\u30cb\u30fc", "\u30ad\u30e5\u30ea\u30fc", "\u30ae\u30eb\u30c0\u30fc"]),
    (0x3314, ["\u30ad\u30ed", "\u30ad\u30ed\u30b0\u30e9\u30e0"]),
    (0x3316, ["\u30ad\u30ed\u30e1\u30fc\u30c8\u30eb", "\u30ad\u30ed\u30ef\u30c3\u30c8"]),
    (0x3318, ["\u30b0\u30e9\u30e0", "\u30b0\u30e9\u30e0\u30c8\u30f3"]),
    (0x331A, ["\u30af\u30eb\u30bc\u30a4\u30ed", "\u30af\u30ed\u30fc\u30cd"]),
    (0x331C, ["\u30b1\u30fc\u30b9", "\u30b3\u30eb\u30ca", "\u30b3\u30fc\u30dd"]),
    (0x331F, ["\u30b5\u30a4\u30af\u30eb", "\u30b5\u30f3\u30c1\u30fc\u30e0"]),
    (0x3321, ["\u30b7\u30ea\u30f3\u30b0", "\u30bb\u30f3\u30c1", "\u30bb\u30f3\u30c8"]),
    (0x3324, ["\u30c0\u30fc\u30b9", "\u30c7\u30b7", "\u30c9\u30eb", "\u30c8\u30f3"]),
    (0x3328, ["\u30ca\u30ce", "\u30ce\u30c3\u30c8", "\u30cf\u30a4\u30c4"]),
    (0x332B, ["\u30d1\u30fc\u30bb\u30f3\u30c8", "\u30d1\u30fc\u30c4"]),
    (0x332D, ["\u30d0\u30fc\u30ec\u30eb", "\u30d4\u30a2\u30b9\u30c8\u30eb"]),
    (0x332F, ["\u30d4\u30af\u30eb", "\u30d4\u30b3", "\u30d3\u30eb"]),
    (0x3332, ["\u30d5\u30a1\u30e9\u30c3\u30c9", "\u30d5\u30a3\u30fc\u30c8"]),
    (0x3334, ["\u30d6\u30c3\u30b7\u30a7\u30eb", "\u30d5\u30e9\u30f3"]),
    (0x3336, ["\u30d8\u30af\u30bf\u30fc\u30eb", "\u30da\u30bd", "\u30da\u30cb\u30d2"]),
    (0x3339, ["\u30d8\u30eb\u30c4", "\u30da\u30f3\u30b9", "\u30da\u30fc\u30b8"]),
    (0x333C, ["\u30d9\u30fc\u30bf", "\u30dd\u30a4\u30f3\u30c8", "\u30dc\u30eb\u30c8"]),
    (0x333F, ["\u30db\u30f3", "\u30dd\u30f3\u30c9", "\u30db\u30fc\u30eb"]),
    (0x3342, ["\u30db\u30fc\u30f3", "\u30de\u30a4\u30af\u30ed", "\u30de\u30a4\u30eb"]),
    (0x3345, ["\u30de\u30c3\u30cf", "\u30de\u30eb\u30af", "\u30de\u30f3\u30b7\u30e7\u30f3"]),
    (0x3348, ["\u30df\u30af\u30ed\u30f3", "\u30df\u30ea", "\u30df\u30ea\u30d0\u30fc\u30eb"]),
    (0x334B, ["\u30e1\u30ac", "\u30e1\u30ac\u30c8\u30f3", "\u30e1\u30fc\u30c8\u30eb"]),
    (0x334E, ["\u30e4\u30fc\u30c9", "\u30e4\u30fc\u30eb", "\u30e6\u30a2\u30f3"]),
    (0x3351, ["\u30ea\u30c3\u30c8\u30eb", "\u30ea\u30e9", "\u30eb\u30d4\u30fc"]),
    (0x3354, ["\u30eb\u30fc\u30d6\u30eb", "\u30ec\u30e0", "\u30ec\u30f3\u30c8\u30b2\u30f3"]),
    (0x3357, ["\u30ef\u30c3\u30c8", "0\u70b9", "1\u70b9", "2\u70b9", "3\u70b9", "4\u70b9"]),
    (0x335D, ["5\u70b9", "6\u70b9", "7\u70b9", "8\u70b9", "9\u70b9", "10\u70b9", "11\u70b9"]),
    (0x3364, ["12\u70b9", "13\u70b9", "14\u70b9", "15\u70b9", "16\u70b9", "17\u70b9"]),
    (0x336A, ["18\u70b9", "19\u70b9", "20\u70b9", "21\u70b9", "22\u70b9", "23\u70b9"]),
    (0x3370, ["24\u70b9", "hpa", "da", "au", "bar", "ov", "pc", "dm", "dm2", "dm3", "iu"]),
    (0x337B, ["\u5e73\u6210", "\u662d\u548c", "\u5927\u6b63", "\u660e\u6cbb"]),
    (0x337F, ["\u682a\u5f0f\u4f1a\u793e", "pa", "na", "\u03bca", "ma", "ka", "kb", "mb"]),
    (0x3387, ["gb", "cal", "kcal", "pf", "nf", "\u03bcf", "\u03bcg", "mg", "kg", "hz", "khz"]),
    (0x3392, ["mhz", "ghz", "thz", "\u03bcl", "ml", "dl", "kl", "fm", "nm", "\u03bcm", "mm"]),
    (0x339D, ["cm", "km", "mm2", "cm2", "m2", "km2", "mm3", "cm3", "m3", "km3", "m\u2215s"]),
    (0x33A8, ["m\u2215s2", "pa", "kpa", "mpa", "gpa", "rad", "rad\u2215s", "rad\u2215s2"]),
    (0x33B0, ["ps", "ns", "\u03bcs", "ms", "pv", "nv", "\u03bcv", "mv", "kv", "mv", "pw"]),
    (0x33BB, ["nw", "\u03bcw", "mw", "kw", "mw", "k\u03c9", "m\u03c9"]),
    (0x33C3, ["bq", "cc", "cd", "c\u2215kg"]),
    (0x33C8, ["db", "gy", "ha", "hp", "in", "kk", "km", "kt", "lm", "ln", "log", "lx", "mb"]),
    (0x33D5, ["mil", "mol", "ph"]),
    (0x33D9, ["ppm", "pr", "sr", "sv", "wb", "v\u2215m", "a\u2215m", "1\u65e5", "2\u65e5"]),
    (0x33E2, ["3\u65e5", "4\u65e5", "5\u65e5", "6\u65e5", "7\u65e5", "8\u65e5", "9\u65e5"]),
    (0x33E9, ["10\u65e5", "11\u65e5", "12\u65e5", "13\u65e5", "14\u65e5", "15\u65e5"]),
    (0x33EF, ["16\u65e5", "17\u65e5", "18\u65e5", "19\u65e5", "20\u65e5", "21\u65e5"]),
    (0x33F5, ["22\u65e5", "23\u65e5", "24\u65e5", "25\u65e5", "26\u65e5", "27\u65e5"]),
    (0x33FB, ["28\u65e5", "29\u65e5", "30\u65e5", "31\u65e5", "gal"]),
    (0xFB00, ["ff", "fi", "fl", "ffi", "ffl", "st", "st"]),
    (0xFB13, ["\u0574\u0576", "\u0574\u0565", "\u0574\u056b", "\u057e\u0576", "\u0574\u056d"]),
    (0xFB1D, ["\u05d9\u05b4"]), (0xFB1F, ["\u05f2\u05b7"]),
    (0xFB2A, ["\u05e9\u05c1", "\u05e9\u05c2", "\u05e9\u05bc\u05c1", "\u05e9\u05bc\u05c2"]),
    (0xFB2E, ["\u05d0\u05b7", "\u05d0\u05b8", "\u05d0\u05bc", "\u05d1\u05bc", "\u05d2\u05bc"]),
    (0xFB33, ["\u05d3\u05bc", "\u05d4\u05bc", "\u05d5\u05bc", "\u05d6\u05bc"]),
    (0xFB38, ["\u05d8\u05bc", "\u05d9\u05bc", "\u05da\u05bc", "\u05db\u05bc", "\u05dc\u05bc"]),
    (0xFB3E, ["\u05de\u05bc"]), (0xFB40, ["\u05e0\u05bc", "\u05e1\u05bc"]),
    (0xFB43, ["\u05e3\u05bc", "\u05e4\u05bc"]),
    (0xFB46, ["\u05e6\u05bc", "\u05e7\u05bc", "\u05e8\u05bc", "\u05e9\u05bc", "\u05ea\u05bc"]),
    (0xFB4B, ["\u05d5\u05b9", "\u05d1\u05bf", "\u05db\u05bf", "\u05e4\u05bf", "\u05d0\u05dc"]),
    (0xFBDD, ["\u06c7\u0674"]),
    (0xFBEA, ["\u0626\u0627", "\u0626\u0627", "\u0626\u06d5", "\u0626\u06d5", "\u0626\u0648"]),
    (0xFBEF, ["\u0626\u0648", "\u0626\u06c7", "\u0626\u06c7", "\u0626\u06c6", "\u0626\u06c6"]),
    (0xFBF4, ["\u0626\u06c8", "\u0626\u06c8", "\u0626\u06d0", "\u0626\u06d0", "\u0626\u06d0"]),
    (0xFBF9, ["\u0626\u0649", "\u0626\u0649", "\u0626\u0649"]),
    (0xFC00, ["\u0626\u062c", "\u0626\u062d", "\u0626\u0645", "\u0626\u0649", "\u0626\u064a"]),
    (0xFC05, ["\u0628\u062c", "\u0628\u062d", "\u0628\u062e", "\u0628\u0645", "\u0628\u0649"]),
    (0xFC0A, ["\u0628\u064a", "\u062a\u062c", "\u062a\u062d", "\u062a\u062e", "\u062a\u0645"]),
    (0xFC0F, ["\u062a\u0649", "\u062a\u064a", "\u062b\u062c", "\u062b\u0645", "\u062b\u0649"]),
    (0xFC14, ["\u062b\u064a", "\u062c\u062d", "\u062c\u0645", "\u062d\u062c", "\u062d\u0645"]),
    (0xFC19, ["\u062e\u062c", "\u062e\u062d", "\u062e\u0645", "\u0633\u062c", "\u0633\u062d"]),
    (0xFC1E, ["\u0633\u062e", "\u0633\u0645", "\u0635\u062d", "\u0635\u0645", "\u0636\u062c"]),
    (0xFC23, ["\u0636\u062d", "\u0636\u062e", "\u0636\u0645", "\u0637\u062d", "\u0637\u0645"]),
    (0xFC28, ["\u0638\u0645", "\u0639\u062c", "\u0639\u0645", "\u063a\u062c", "\u063a\u0645"]),
    (0xFC2D, ["\u0641\u062c", "\u0641\u062d", "\u0641\u062e", "\u0641\u0645", "\u0641\u0649"]),
    (0xFC32, ["\u0641\u064a", "\u0642\u062d", "\u0642\u0645", "\u0642\u0649", "\u0642\u064a"]),
    (0xFC37, ["\u0643\u0627", "\u0643\u062c", "\u0643\u062d", "\u0643\u062e", "\u0643\u0644"]),
    (0xFC3C, ["\u0643\u0645", "\u0643\u0649", "\u0643\u064a", "\u0644\u062c", "\u0644\u062d"]),
    (0xFC41, ["\u0644\u062e", "\u0644\u0645", "\u0644\u0649", "\u0644\u064a", "\u0645\u062c"]),
    (0xFC46, ["\u0645\u062d", "\u0645\u062e", "\u0645\u0645", "\u0645\u0649", "\u0645\u064a"]),
    (0xFC4B, ["\u0646\u062c", "\u0646\u062d", "\u0646\u062e", "\u0646\u0645", "\u0646\u0649"]),
    (0xFC50, ["\u0646\u064a", "\u0647\u062c", "\u0647\u0645", "\u0647\u0649", "\u0647\u064a"]),
    (0xFC55, ["\u064a\u062c", "\u064a\u062d", "\u064a\u062e", "\u064a\u0645", "\u064a\u0649"]),
    (0xFC5A, ["\u064a\u064a", "\u0630\u0670", "\u0631\u0670", "\u0649\u0670"]),
    (0xFC5E, [" \u064c\u0651", " \u064d\u0651", " \u064e\u0651", " \u064f\u0651"]),
    (0xFC62, [" \u0650\u0651", " \u0651\u0670", "\u0626\u0631", "\u0626\u0632"]),
    (0xFC66, ["\u0626\u0645", "\u0626\u0646", "\u0626\u0649", "\u0626\u064a", "\u0628\u0631"]),
    (0xFC6B, ["\u0628\u0632", "\u0628\u0645", "\u0628\u0646", "\u0628\u0649", "\u0628\u064a"]),
    (0xFC70, ["\u062a\u0631", "\u062a\u0632", "\u062a\u0645", "\u062a\u0646", "\u062a\u0649"]),
    (0xFC75, ["\u062a\u064a", "\u062b\u0631", "\u062b\u0632", "\u062b\u0645", "\u062b\u0646"]),
    (0xFC7A, ["\u062b\u0649", "\u062b\u064a", "\u0641\u0649", "\u0641\u064a", "\u0642\u0649"]),
    (0xFC7F, ["\u0642\u064a", "\u0643\u0627", "\u0643\u0644", "\u0643\u0645", "\u0643\u0649"]),
    (0xFC84, ["\u0643\u064a", "\u0644\u0645", "\u0644\u0649", "\u0644\u064a", "\u0645\u0627"]),
    (0xFC89, ["\u0645\u0645", "\u0646\u0631", "\u0646\u0632", "\u0646\u0645", "\u0646\u0646"]),
    (0xFC8E, ["\u0646\u0649", "\u0646\u064a", "\u0649\u0670", "\u064a\u0631", "\u064a\u0632"]),
    (0xFC93, ["\u064a\u0645", "\u064a\u0646", "\u064a\u0649", "\u064a\u064a", "\u0626\u062c"]),
    (0xFC98, ["\u0626\u062d", "\u0626\u062e", "\u0626\u0645", "\u0626\u0647", "\u0628\u062c"]),
    (0xFC9D, ["\u0628\u062d", "\u0628\u062e", "\u0628\u0645", "\u0628\u0647", "\u062a\u062c"]),
    (0xFCA2, ["\u062a\u062d", "\u062a\u062e", "\u062a\u0645", "\u062a\u0647", "\u062b\u0645"]),
    (0xFCA7, ["\u062c\u062d", "\u062c\u0645", "\u062d\u062c", "\u062d\u0645", "\u062e\u062c"]),
    (0xFCAC, ["\u062e\u0645", "\u0633\u062c", "\u0633\u062d", "\u0633\u062e", "\u0633\u0645"]),
    (0xFCB1, ["\u0635\u062d", "\u0635\u062e", "\u0635\u0645", "\u0636\u062c", "\u0636\u062d"]),
    (0xFCB6, ["\u0636\u062e", "\u0636\u0645", "\u0637\u062d", "\u0638\u0645", "\u0639\u062c"]),
    (0xFCBB, ["\u0639\u0645", "\u063a\u062c", "\u063a\u0645", "\u0641\u062c", "\u0641\u062d"]),
    (0xFCC0, ["\u0641\u062e", "\u0641\u0645", "\u0642\u062d", "\u0642\u0645", "\u0643\u062c"]),
    (0xFCC5, ["\u0643\u062d", "\u0643\u062e", "\u0643\u0644", "\u0643\u0645", "\u0644\u062c"]),
    (0xFCCA, ["\u0644\u062d", "\u0644\u062e", "\u0644\u0645", "\u0644\u0647", "\u0645\u062c"]),
    (0xFCCF, ["\u0645\u062d", "\u0645\u062e", "\u0645\u0645", "\u0646\u062c", "\u0646\u062d"]),
    (0xFCD4, ["\u0646\u062e", "\u0646\u0645", "\u0646\u0647", "\u0647\u062c", "\u0647\u0645"]),
    (0xFCD9, ["\u0647\u0670", "\u064a\u062c", "\u064a\u062d", "\u064a\u062e", "\u064a\u0645"]),
    (0xFCDE, ["\u064a\u0647", "\u0626\u0645", "\u0626\u0647", "\u0628\u0645", "\u0628\u0647"]),
    (0xFCE3, ["\u062a\u0645", "\u062a\u0647", "\u062b\u0645", "\u062b\u0647", "\u0633\u0645"]),
    (0xFCE8, ["\u0633\u0647", "\u0634\u0645", "\u0634\u0647", "\u0643\u0644", "\u0643\u0645"]),
    (0xFCED, ["\u0644\u0645", "\u0646\u0645", "\u0646\u0647", "\u064a\u0645", "\u064a\u0647"]),
    (0xFCF2, ["\u0640\u064e\u0651", "\u0640\u064f\u0651", "\u0640\u0650\u0651"]),
    (0xFCF5, ["\u0637\u0649", "\u0637\u064a", "\u0639\u0649", "\u0639\u064a", "\u063a\u0649"]),
    (0xFCFA, ["\u063a\u064a", "\u0633\u0649", "\u0633\u064a", "\u0634\u0649", "\u0634\u064a"]),
    (0xFCFF, ["\u062d\u0649", "\u062d\u064a", "\u062c\u0649", "\u062c\u064a", "\u062e\u0649"]),
    (0xFD04, ["\u062e\u064a", "\u0635\u0649", "\u0635\u064a", "\u0636\u0649", "\u0636\u064a"]),
    (0xFD09, ["\u0634\u062c", "\u0634\u062d", "\u0634\u062e", "\u0634\u0645", "\u0634\u0631"]),
    (0xFD0E, ["\u0633\u0631", "\u0635\u0631", "\u0636\u0631", "\u0637\u0649", "\u0637\u064a"]),
    (0xFD13, ["\u0639\u0649", "\u0639\u064a", "\u063a\u0649", "\u063a\u064a", "\u0633\u0649"]),
    (0xFD18, ["\u0633\u064a", "\u0634\u0649", "\u0634\u064a", "\u062d\u0649", "\u062d\u064a"]),
    (0xFD1D, ["\u062c\u0649", "\u062c\u064a", "\u062e\u0649", "\u062e\u064a", "\u0635\u0649"]),
    (0xFD22, ["\u0635\u064a", "\u0636\u0649", "\u0636\u064a", "\u0634\u062c", "\u0634\u062d"]),
    (0xFD27, ["\u0634\u062e", "\u0634\u0645", "\u0634\u0631", "\u0633\u0631", "\u0635\u0631"]),
    (0xFD2C, ["\u0636\u0631", "\u0634\u062c", "\u0634\u062d", "\u0634\u062e", "\u0634\u0645"]),
    (0xFD31, ["\u0633\u0647", "\u0634\u0647", "\u0637\u0645", "\u0633\u062c", "\u0633\u062d"]),
    (0xFD36, ["\u0633\u062e", "\u0634\u062c", "\u0634\u062d", "\u0634\u062e", "\u0637\u0645"]),
    (0xFD3B, ["\u0638\u0645", "\u0627\u064b", "\u0627\u064b"]),
    (0xFD50, ["\u062a\u062c\u0645", "\u062a\u062d\u062c", "\u062a\u062d\u062c"]),
    (0xFD53, ["\u062a\u062d\u0645", "\u062a\u062e\u0645", "\u062a\u0645\u062c"]),
    (0xFD56, ["\u062a\u0645\u062d", "\u062a\u0645\u062e", "\u062c\u0645\u062d"]),
    (0xFD59, ["\u062c\u0645\u062d", "\u062d\u0645\u064a", "\u062d\u0645\u0649"]),
    (0xFD5C, ["\u0633\u062d\u062c", "\u0633\u062c\u062d", "\u0633\u062c\u0649"]),
    (0xFD5F, ["\u0633\u0645\u062d", "\u0633\u0645\u062d", "\u0633\u0645\u062c"]),
    (0xFD62, ["\u0633\u0645\u0645", "\u0633\u0645\u0645", "\u0635\u062d\u062d"]),
    (0xFD65, ["\u0635\u062d\u062d", "\u0635\u0645\u0645", "\u0634\u062d\u0645"]),
    (0xFD68, ["\u0634\u062d\u0645", "\u0634\u062c\u064a", "\u0634\u0645\u062e"]),
    (0xFD6B, ["\u0634\u0645\u062e", "\u0634\u0645\u0645", "\u0634\u0645\u0645"]),
    (0xFD6E, ["\u0636\u062d\u0649", "\u0636\u062e\u0645", "\u0636\u062e\u0645"]),
    (0xFD71, ["\u0637\u0645\u062d", "\u0637\u0645\u062d", "\u0637\u0645\u0645"]),
    (0xFD74, ["\u0637\u0645\u064a", "\u0639\u062c\u0645", "\u0639\u0645\u0645"]),
    (0xFD77, ["\u0639\u0645\u0645", "\u0639\u0645\u0649", "\u063a\u0645\u0645"]),
    (0xFD7A, ["\u063a\u0645\u064a", "\u063a\u0645\u0649", "\u0641\u062e\u0645"]),
    (0xFD7D, ["\u0641\u062e\u0645", "\u0642\u0645\u062d", "\u0642\u0645\u0645"]),
    (0xFD80, ["\u0644\u062d\u0645", "\u0644\u062d\u064a", "\u0644\u062d\u0649"]),
    (0xFD83, ["\u0644\u062c\u062c", "\u0644\u062c\u062c", "\u0644\u062e\u0645"]),
    (0xFD86, ["\u0644\u062e\u0645", "\u0644\u0645\u062d", "\u0644\u0645\u062d"]),
    (0xFD89, ["\u0645\u062d\u062c", "\u0645\u062d\u0645", "\u0645\u062d\u064a"]),
    (0xFD8C, ["\u0645\u062c\u062d", "\u0645\u062c\u0645", "\u0645\u062e\u062c"]),
    (0xFD8F, ["\u0645\u062e\u0645"]),
    (0xFD92, ["\u0645\u062c\u062e", "\u0647\u0645\u062c", "\u0647\u0645\u0645"]),
    (0xFD95, ["\u0646\u062d\u0645", "\u0646\u062d\u0649", "\u0646\u062c\u0645"]),
    (0xFD98, ["\u0646\u062c\u0645", "\u0646\u062c\u0649", "\u0646\u0645\u064a"]),
    (0xFD9B, ["\u0646\u0645\u0649", "\u064a\u0645\u0645", "\u064a\u0645\u0645"]),
    (0xFD9E, ["\u0628\u062e\u064a", "\u062a\u062c\u064a", "\u062a\u062c\u0649"]),
    (0xFDA1, ["\u062a\u062e\u064a", "\u062a\u062e\u0649", "\u062a\u0645\u064a"]),
    (0xFDA4, ["\u062a\u0645\u0649", "\u062c\u0645\u064a", "\u062c\u062d\u0649"]),
    (0xFDA7, ["\u062c\u0645\u0649", "\u0633\u062e\u0649", "\u0635\u062d\u064a"]),
    (0xFDAA, ["\u0634\u062d\u064a", "\u0636\u062d\u064a", "\u0644\u062c\u064a"]),
    (0xFDAD, ["\u0644\u0645\u064a", "\u064a\u062d\u064a", "\u064a\u062c\u064a"]),
    (0xFDB0, ["\u064a\u0645\u064a", "\u0645\u0645\u064a", "\u0642\u0645\u064a"]),
    (0xFDB3, ["\u0646\u062d\u064a", "\u0642\u0645\u062d", "\u0644\u062d\u0645"]),
    (0xFDB6, ["\u0639\u0645\u064a", "\u0643\u0645\u064a", "\u0646\u062c\u062d"]),
    (0xFDB9, ["\u0645\u062e\u064a", "\u0644\u062c\u0645", "\u0643\u0645\u0645"]),
    (0xFDBC, ["\u0644\u062c\u0645", "\u0646\u062c\u062d", "\u062c\u062d\u064a"]),
    (0xFDBF, ["\u062d\u062c\u064a", "\u0645\u062c\u064a", "\u0641\u0645\u064a"]),
    (0xFDC2, ["\u0628\u062d\u064a", "\u0643\u0645\u0645", "\u0639\u062c\u0645"]),
    (0xFDC5, ["\u0635\u0645\u0645", "\u0633\u062e\u064a", "\u0646\u062c\u064a"]),
    (0xFDF0, ["\u0635\u0644\u06d2", "\u0642\u0644\u06d2", "\u0627\u0644\u0644\u0647"]),
    (0xFDF3, ["\u0627\u0643\u0628\u0631", "\u0645\u062d\u0645\u062f"]),
    (0xFDF5, ["\u0635\u0644\u0639\u0645", "\u0631\u0633\u0648\u0644"]),
    (0xFDF7, ["\u0639\u0644\u064a\u0647", "\u0648\u0633\u0644\u0645", "\u0635\u0644\u0649"]),
    (0xFDFA, ["\u0635\u0644\u0649 \u0627\u0644\u0644\u0647 " ++
      "\u0639\u0644\u064a\u0647 \u0648\u0633\u0644\u0645"]),
    (0xFDFB, ["\u062c\u0644 \u062c\u0644\u0627\u0644\u0647", "\u0631\u06cc\u0627\u0644"]),
    (0xFE49, [" \u0305", " \u0305", " \u0305", " \u0305"]),
    (0xFE70, [" \u064b", "\u0640\u064b", " \u064c"]), (0xFE74, [" \u064d"]),
    (0xFE76, [" \u064e", "\u0640\u064e", " \u064f", "\u0640\u064f", " \u0650"]),
    (0xFE7B, ["\u0640\u0650", " \u0651", "\u0640\u0651", " \u0652", "\u0640\u0652"]),
    (0xFEF5, ["\u0644\u0622", "\u0644\u0622", "\u0644\u0623", "\u0644\u0623", "\u0644\u0625"]),
    (0xFEFA, ["\u0644\u0625", "\u0644\u0627", "\u0644\u0627"]), (0xFFE3, [" \u0304"]),
    (0x1D15E, ["𝅗𝅥", "𝅘𝅥", "𝅘𝅥𝅮", "𝅘𝅥𝅯", "𝅘𝅥𝅰", "𝅘𝅥𝅱", "𝅘𝅥𝅲"]),
    (0x1D1BB, ["𝆹𝅥", "𝆺𝅥", "𝆹𝅥𝅮", "𝆺𝅥𝅮", "𝆹𝅥𝅯", "𝆺𝅥𝅯"]),
    (0x1F101, ["0,", "1,", "2,", "3,", "4,", "5,", "6,", "7,", "8,", "9,"]),
    (0x1F110, ["(a)", "(b)", "(c)", "(d)", "(e)", "(f)", "(g)", "(h)", "(i)", "(j)", "(k)"]),
    (0x1F11B, ["(l)", "(m)", "(n)", "(o)", "(p)", "(q)", "(r)", "(s)", "(t)", "(u)", "(v)"]),
    (0x1F126, ["(w)", "(x)", "(y)", "(z)", "\u3014s\u3015"]), (0x1F12D, ["cd", "wz"]),
    (0x1F14A, ["hv", "mv", "sd", "ss", "ppv", "wc"]), (0x1F16A, ["mc", "md", "mr"]),
    (0x1F190, ["dj"]), (0x1F200, ["\u307b\u304b", "\u30b3\u30b3"]),
    (0x1F240, ["\u3014\u672c\u3015", "\u3014\u4e09\u3015", "\u3014\u4e8c\u3015"]),
    (0x1F243, ["\u3014\u5b89\u3015", "\u3014\u70b9\u3015", "\u3014\u6253\u3015"]),
    (0x1F246, ["\u3014\u76d7\u3015", "\u3014\u52dd\u3015", "\u3014\u6557\u3015"])]

/-- What a character in a run stands for. -/
def letterInRun? (code : Nat) : Option Char :=
  letterRuns.findSome? fun (first, last, distance, target) =>
    if first ≤ code && code ≤ last && (code - first) % distance = 0 then
      some (Char.ofNat (target + (code - first)))
    else none

/-- The single character that another one stands for beyond the runs. -/
def letter? (code : Nat) : Option Char :=
  letters.findSome? fun (first, targets) =>
    if first ≤ code then targets.toList[code - first]? else none

/-- The characters that another one stands for. -/
def text? (code : Nat) : Option String :=
  texts.findSome? fun (first, targets) =>
    if first ≤ code then targets[code - first]? else none

/-- What a character stands for in a host name. -/
def fold (c : Char) : List Char :=
  if c.toNat < 0x80 then [c.toLower]
  else if ignored.contains c then []
  else
    match letterInRun? c.toNat <|> letter? c.toNat with
    | some letter => [letter]
    | none => ((text? c.toNat).map String.toList).getD [c]

/-- May the character stand as it is in a name that has been mapped? -/
def isSettled (c : Char) : Bool :=
  (c.toNat < 0x80 || !disallowed.contains c) && fold c = [c]

end ReservationLoad.Domain
