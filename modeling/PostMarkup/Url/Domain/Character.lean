import PostMarkup.Text.Lines
import PostMarkup.Unicode.Casing

/-! # Characters of domain names

Before a domain name is read, some of its characters are dropped and some stand for others: capitals
for small letters, wide, styled and circled forms for plain text, and other full stops for the dot.
Only what makes a difference to the validity of a name is told here. A character whose stand-in is
of the same kind as itself, such as a small letter for a capital, is kept as it is.
-/

namespace PostMarkup.Url.Domain

open PostMarkup.Unicode

def ignoredRanges : Ranges := [
  (0xad, 0xad), (0x34f, 0x34f), (0x115f, 0x1160), (0x17b4, 0x17b5), (0x180b, 0x180f),
  (0x200b, 0x200b), (0x2060, 0x2064), (0x206a, 0x206f), (0x3164, 0x3164), (0xfe00, 0xfe0f),
  (0xfeff, 0xfeff), (0xffa0, 0xffa0), (0x1bca0, 0x1bca3), (0x1d173, 0x1d17a), (0xe0100, 0xe01ef)]

/-- Code points that no name holds, among them the unassigned ones and those that stand for text
with a character that is forbidden in names. -/
def unusableRanges : Ranges := [
  (0x80, 0xa0), (0xa8, 0xa8), (0xaf, 0xaf), (0xb4, 0xb4), (0xb8, 0xb8), (0x2d8, 0x2dd),
  (0x378, 0x37a), (0x380, 0x385), (0x38b, 0x38b), (0x38d, 0x38d), (0x3a2, 0x3a2), (0x530, 0x530),
  (0x557, 0x558), (0x58b, 0x58c), (0x590, 0x590), (0x5c8, 0x5cf), (0x5eb, 0x5ee), (0x5f5, 0x605),
  (0x61c, 0x61c), (0x6dd, 0x6dd), (0x70e, 0x70f), (0x74b, 0x74c), (0x7b2, 0x7bf), (0x7fb, 0x7fc),
  (0x82e, 0x82f), (0x83f, 0x83f), (0x85c, 0x85d), (0x85f, 0x85f), (0x86b, 0x86f), (0x890, 0x896),
  (0x8e2, 0x8e2), (0x984, 0x984), (0x98d, 0x98e), (0x991, 0x992), (0x9a9, 0x9a9), (0x9b1, 0x9b1),
  (0x9b3, 0x9b5), (0x9ba, 0x9bb), (0x9c5, 0x9c6), (0x9c9, 0x9ca), (0x9cf, 0x9d6), (0x9d8, 0x9db),
  (0x9de, 0x9de), (0x9e4, 0x9e5), (0x9ff, 0xa00), (0xa04, 0xa04), (0xa0b, 0xa0e), (0xa11, 0xa12),
  (0xa29, 0xa29), (0xa31, 0xa31), (0xa34, 0xa34), (0xa37, 0xa37), (0xa3a, 0xa3b), (0xa3d, 0xa3d),
  (0xa43, 0xa46), (0xa49, 0xa4a), (0xa4e, 0xa50), (0xa52, 0xa58), (0xa5d, 0xa5d), (0xa5f, 0xa65),
  (0xa77, 0xa80), (0xa84, 0xa84), (0xa8e, 0xa8e), (0xa92, 0xa92), (0xaa9, 0xaa9), (0xab1, 0xab1),
  (0xab4, 0xab4), (0xaba, 0xabb), (0xac6, 0xac6), (0xaca, 0xaca), (0xace, 0xacf), (0xad1, 0xadf),
  (0xae4, 0xae5), (0xaf2, 0xaf8), (0xb00, 0xb00), (0xb04, 0xb04), (0xb0d, 0xb0e), (0xb11, 0xb12),
  (0xb29, 0xb29), (0xb31, 0xb31), (0xb34, 0xb34), (0xb3a, 0xb3b), (0xb45, 0xb46), (0xb49, 0xb4a),
  (0xb4e, 0xb54), (0xb58, 0xb5b), (0xb5e, 0xb5e), (0xb64, 0xb65), (0xb78, 0xb81), (0xb84, 0xb84),
  (0xb8b, 0xb8d), (0xb91, 0xb91), (0xb96, 0xb98), (0xb9b, 0xb9b), (0xb9d, 0xb9d), (0xba0, 0xba2),
  (0xba5, 0xba7), (0xbab, 0xbad), (0xbba, 0xbbd), (0xbc3, 0xbc5), (0xbc9, 0xbc9), (0xbce, 0xbcf),
  (0xbd1, 0xbd6), (0xbd8, 0xbe5), (0xbfb, 0xbff), (0xc0d, 0xc0d), (0xc11, 0xc11), (0xc29, 0xc29),
  (0xc3a, 0xc3b), (0xc45, 0xc45), (0xc49, 0xc49), (0xc4e, 0xc54), (0xc57, 0xc57), (0xc5b, 0xc5b),
  (0xc5e, 0xc5f), (0xc64, 0xc65), (0xc70, 0xc76), (0xc8d, 0xc8d), (0xc91, 0xc91), (0xca9, 0xca9),
  (0xcb4, 0xcb4), (0xcba, 0xcbb), (0xcc5, 0xcc5), (0xcc9, 0xcc9), (0xcce, 0xcd4), (0xcd7, 0xcdb),
  (0xcdf, 0xcdf), (0xce4, 0xce5), (0xcf0, 0xcf0), (0xcf4, 0xcff), (0xd0d, 0xd0d), (0xd11, 0xd11),
  (0xd45, 0xd45), (0xd49, 0xd49), (0xd50, 0xd53), (0xd64, 0xd65), (0xd80, 0xd80), (0xd84, 0xd84),
  (0xd97, 0xd99), (0xdb2, 0xdb2), (0xdbc, 0xdbc), (0xdbe, 0xdbf), (0xdc7, 0xdc9), (0xdcb, 0xdce),
  (0xdd5, 0xdd5), (0xdd7, 0xdd7), (0xde0, 0xde5), (0xdf0, 0xdf1), (0xdf5, 0xe00), (0xe3b, 0xe3e),
  (0xe5c, 0xe80), (0xe83, 0xe83), (0xe85, 0xe85), (0xe8b, 0xe8b), (0xea4, 0xea4), (0xea6, 0xea6),
  (0xebe, 0xebf), (0xec5, 0xec5), (0xec7, 0xec7), (0xecf, 0xecf), (0xeda, 0xedb), (0xee0, 0xeff),
  (0xf48, 0xf48), (0xf6d, 0xf70), (0xf98, 0xf98), (0xfbd, 0xfbd), (0xfcd, 0xfcd), (0xfdb, 0xfff),
  (0x10c6, 0x10c6), (0x10c8, 0x10cc), (0x10ce, 0x10cf), (0x1249, 0x1249), (0x124e, 0x124f),
  (0x1257, 0x1257), (0x1259, 0x1259), (0x125e, 0x125f), (0x1289, 0x1289), (0x128e, 0x128f),
  (0x12b1, 0x12b1), (0x12b6, 0x12b7), (0x12bf, 0x12bf), (0x12c1, 0x12c1), (0x12c6, 0x12c7),
  (0x12d7, 0x12d7), (0x1311, 0x1311), (0x1316, 0x1317), (0x135b, 0x135c), (0x137d, 0x137f),
  (0x139a, 0x139f), (0x13f6, 0x13f7), (0x13fe, 0x13ff), (0x1680, 0x1680), (0x169d, 0x169f),
  (0x16f9, 0x16ff), (0x1716, 0x171e), (0x1737, 0x173f), (0x1754, 0x175f), (0x176d, 0x176d),
  (0x1771, 0x1771), (0x1774, 0x177f), (0x17de, 0x17df), (0x17ea, 0x17ef), (0x17fa, 0x17ff),
  (0x181a, 0x181f), (0x1879, 0x187f), (0x18ab, 0x18af), (0x18f6, 0x18ff), (0x191f, 0x191f),
  (0x192c, 0x192f), (0x193c, 0x193f), (0x1941, 0x1943), (0x196e, 0x196f), (0x1975, 0x197f),
  (0x19ac, 0x19af), (0x19ca, 0x19cf), (0x19db, 0x19dd), (0x1a1c, 0x1a1d), (0x1a5f, 0x1a5f),
  (0x1a7d, 0x1a7e), (0x1a8a, 0x1a8f), (0x1a9a, 0x1a9f), (0x1aae, 0x1aaf), (0x1ade, 0x1adf),
  (0x1aec, 0x1aff), (0x1b4d, 0x1b4d), (0x1bf4, 0x1bfb), (0x1c38, 0x1c3a), (0x1c4a, 0x1c4c),
  (0x1c8b, 0x1c8f), (0x1cbb, 0x1cbc), (0x1cc8, 0x1ccf), (0x1cfb, 0x1cff), (0x1f16, 0x1f17),
  (0x1f1e, 0x1f1f), (0x1f46, 0x1f47), (0x1f4e, 0x1f4f), (0x1f58, 0x1f58), (0x1f5a, 0x1f5a),
  (0x1f5c, 0x1f5c), (0x1f5e, 0x1f5e), (0x1f7e, 0x1f7f), (0x1fb5, 0x1fb5), (0x1fbd, 0x1fbd),
  (0x1fbf, 0x1fc1), (0x1fc5, 0x1fc5), (0x1fcd, 0x1fcf), (0x1fd4, 0x1fd5), (0x1fdc, 0x1fdf),
  (0x1fed, 0x1fee), (0x1ff0, 0x1ff1), (0x1ff5, 0x1ff5), (0x1ffd, 0x200a), (0x200e, 0x200f),
  (0x2017, 0x2017), (0x2024, 0x2026), (0x2028, 0x202f), (0x203e, 0x203e), (0x2047, 0x2049),
  (0x205f, 0x205f), (0x2065, 0x2069), (0x2072, 0x2073), (0x208f, 0x208f), (0x209d, 0x209f),
  (0x20c2, 0x20cf), (0x20f1, 0x2101), (0x2105, 0x2106), (0x218c, 0x218f), (0x242a, 0x243f),
  (0x244b, 0x245f), (0x2488, 0x249b), (0x2a74, 0x2a74), (0x2b74, 0x2b75), (0x2cf4, 0x2cf8),
  (0x2d26, 0x2d26), (0x2d28, 0x2d2c), (0x2d2e, 0x2d2f), (0x2d68, 0x2d6e), (0x2d71, 0x2d7e),
  (0x2d97, 0x2d9f), (0x2da7, 0x2da7), (0x2daf, 0x2daf), (0x2db7, 0x2db7), (0x2dbf, 0x2dbf),
  (0x2dc7, 0x2dc7), (0x2dcf, 0x2dcf), (0x2dd7, 0x2dd7), (0x2ddf, 0x2ddf), (0x2e5e, 0x2e7f),
  (0x2e9a, 0x2e9a), (0x2ef4, 0x2eff), (0x2fd6, 0x3000), (0x3040, 0x3040), (0x3097, 0x3098),
  (0x309b, 0x309c), (0x3100, 0x3104), (0x3130, 0x3130), (0x318f, 0x318f), (0x31e6, 0x31ef),
  (0x321f, 0x321f), (0x33c2, 0x33c2), (0x33c7, 0x33c7), (0x33d8, 0x33d8), (0xa48d, 0xa48f),
  (0xa4c7, 0xa4cf), (0xa62c, 0xa63f), (0xa6f8, 0xa6ff), (0xa7dd, 0xa7f0), (0xa82d, 0xa82f),
  (0xa83a, 0xa83f), (0xa878, 0xa87f), (0xa8c6, 0xa8cd), (0xa8da, 0xa8df), (0xa954, 0xa95e),
  (0xa97d, 0xa97f), (0xa9ce, 0xa9ce), (0xa9da, 0xa9dd), (0xa9ff, 0xa9ff), (0xaa37, 0xaa3f),
  (0xaa4e, 0xaa4f), (0xaa5a, 0xaa5b), (0xaac3, 0xaada), (0xaaf7, 0xab00), (0xab07, 0xab08),
  (0xab0f, 0xab10), (0xab17, 0xab1f), (0xab27, 0xab27), (0xab2f, 0xab2f), (0xab6c, 0xab6f),
  (0xabee, 0xabef), (0xabfa, 0xabff), (0xd7a4, 0xd7af), (0xd7c7, 0xd7ca), (0xd7fc, 0xd7ff),
  (0xe000, 0xf8ff), (0xfa6e, 0xfa6f), (0xfada, 0xfaff), (0xfb07, 0xfb12), (0xfb18, 0xfb1c),
  (0xfb37, 0xfb37), (0xfb3d, 0xfb3d), (0xfb3f, 0xfb3f), (0xfb42, 0xfb42), (0xfb45, 0xfb45),
  (0xfc5e, 0xfc63), (0xfdd0, 0xfdef), (0xfdfa, 0xfdfb), (0xfe12, 0xfe13), (0xfe16, 0xfe16),
  (0xfe19, 0xfe1f), (0xfe30, 0xfe30), (0xfe47, 0xfe4c), (0xfe52, 0xfe53), (0xfe55, 0xfe56),
  (0xfe5f, 0xfe5f), (0xfe67, 0xfe68), (0xfe6a, 0xfe70), (0xfe72, 0xfe72), (0xfe74, 0xfe76),
  (0xfe78, 0xfe78), (0xfe7a, 0xfe7a), (0xfe7c, 0xfe7c), (0xfe7e, 0xfe7e), (0xfefd, 0xfefe),
  (0xff00, 0xff00), (0xff03, 0xff03), (0xff05, 0xff05), (0xff0f, 0xff0f), (0xff1a, 0xff1a),
  (0xff1f, 0xff20), (0xff3b, 0xff3e), (0xff5c, 0xff5c), (0xffbf, 0xffc1), (0xffc8, 0xffc9),
  (0xffd0, 0xffd1), (0xffd8, 0xffd9), (0xffdd, 0xffdf), (0xffe3, 0xffe3), (0xffe7, 0xffe7),
  (0xffef, 0xffff), (0x1000c, 0x1000c), (0x10027, 0x10027), (0x1003b, 0x1003b), (0x1003e, 0x1003e),
  (0x1004e, 0x1004f), (0x1005e, 0x1007f), (0x100fb, 0x100ff), (0x10103, 0x10106),
  (0x10134, 0x10136), (0x1018f, 0x1018f), (0x1019d, 0x1019f), (0x101a1, 0x101cf),
  (0x101fe, 0x1027f), (0x1029d, 0x1029f), (0x102d1, 0x102df), (0x102fc, 0x102ff),
  (0x10324, 0x1032c), (0x1034b, 0x1034f), (0x1037b, 0x1037f), (0x1039e, 0x1039e),
  (0x103c4, 0x103c7), (0x103d6, 0x103ff), (0x1049e, 0x1049f), (0x104aa, 0x104af),
  (0x104d4, 0x104d7), (0x104fc, 0x104ff), (0x10528, 0x1052f), (0x10564, 0x1056e),
  (0x1057b, 0x1057b), (0x1058b, 0x1058b), (0x10593, 0x10593), (0x10596, 0x10596),
  (0x105a2, 0x105a2), (0x105b2, 0x105b2), (0x105ba, 0x105ba), (0x105bd, 0x105bf),
  (0x105f4, 0x105ff), (0x10737, 0x1073f), (0x10756, 0x1075f), (0x10768, 0x1077f),
  (0x10786, 0x10786), (0x107b1, 0x107b1), (0x107bb, 0x107ff), (0x10806, 0x10807),
  (0x10809, 0x10809), (0x10836, 0x10836), (0x10839, 0x1083b), (0x1083d, 0x1083e),
  (0x10856, 0x10856), (0x1089f, 0x108a6), (0x108b0, 0x108df), (0x108f3, 0x108f3),
  (0x108f6, 0x108fa), (0x1091c, 0x1091e), (0x1093a, 0x1093e), (0x1095a, 0x1097f),
  (0x109b8, 0x109bb), (0x109d0, 0x109d1), (0x10a04, 0x10a04), (0x10a07, 0x10a0b),
  (0x10a14, 0x10a14), (0x10a18, 0x10a18), (0x10a36, 0x10a37), (0x10a3b, 0x10a3e),
  (0x10a49, 0x10a4f), (0x10a59, 0x10a5f), (0x10aa0, 0x10abf), (0x10ae7, 0x10aea),
  (0x10af7, 0x10aff), (0x10b36, 0x10b38), (0x10b56, 0x10b57), (0x10b73, 0x10b77),
  (0x10b92, 0x10b98), (0x10b9d, 0x10ba8), (0x10bb0, 0x10bff), (0x10c49, 0x10c7f),
  (0x10cb3, 0x10cbf), (0x10cf3, 0x10cf9), (0x10d28, 0x10d2f), (0x10d3a, 0x10d3f),
  (0x10d66, 0x10d68), (0x10d86, 0x10d8d), (0x10d90, 0x10e5f), (0x10e7f, 0x10e7f),
  (0x10eaa, 0x10eaa), (0x10eae, 0x10eaf), (0x10eb2, 0x10ec1), (0x10ec8, 0x10ecf),
  (0x10ed9, 0x10ef9), (0x10f28, 0x10f2f), (0x10f5a, 0x10f6f), (0x10f8a, 0x10faf),
  (0x10fcc, 0x10fdf), (0x10ff7, 0x10fff), (0x1104e, 0x11051), (0x11076, 0x1107e),
  (0x110bd, 0x110bd), (0x110c3, 0x110cf), (0x110e9, 0x110ef), (0x110fa, 0x110ff),
  (0x11135, 0x11135), (0x11148, 0x1114f), (0x11177, 0x1117f), (0x111e0, 0x111e0),
  (0x111f5, 0x111ff), (0x11212, 0x11212), (0x11242, 0x1127f), (0x11287, 0x11287),
  (0x11289, 0x11289), (0x1128e, 0x1128e), (0x1129e, 0x1129e), (0x112aa, 0x112af),
  (0x112eb, 0x112ef), (0x112fa, 0x112ff), (0x11304, 0x11304), (0x1130d, 0x1130e),
  (0x11311, 0x11312), (0x11329, 0x11329), (0x11331, 0x11331), (0x11334, 0x11334),
  (0x1133a, 0x1133a), (0x11345, 0x11346), (0x11349, 0x1134a), (0x1134e, 0x1134f),
  (0x11351, 0x11356), (0x11358, 0x1135c), (0x11364, 0x11365), (0x1136d, 0x1136f),
  (0x11375, 0x1137f), (0x1138a, 0x1138a), (0x1138c, 0x1138d), (0x1138f, 0x1138f),
  (0x113b6, 0x113b6), (0x113c1, 0x113c1), (0x113c3, 0x113c4), (0x113c6, 0x113c6),
  (0x113cb, 0x113cb), (0x113d6, 0x113d6), (0x113d9, 0x113e0), (0x113e3, 0x113ff),
  (0x1145c, 0x1145c), (0x11462, 0x1147f), (0x114c8, 0x114cf), (0x114da, 0x1157f),
  (0x115b6, 0x115b7), (0x115de, 0x115ff), (0x11645, 0x1164f), (0x1165a, 0x1165f),
  (0x1166d, 0x1167f), (0x116ba, 0x116bf), (0x116ca, 0x116cf), (0x116e4, 0x116ff),
  (0x1171b, 0x1171c), (0x1172c, 0x1172f), (0x11747, 0x117ff), (0x1183c, 0x1189f),
  (0x118f3, 0x118fe), (0x11907, 0x11908), (0x1190a, 0x1190b), (0x11914, 0x11914),
  (0x11917, 0x11917), (0x11936, 0x11936), (0x11939, 0x1193a), (0x11947, 0x1194f),
  (0x1195a, 0x1199f), (0x119a8, 0x119a9), (0x119d8, 0x119d9), (0x119e5, 0x119ff),
  (0x11a48, 0x11a4f), (0x11aa3, 0x11aaf), (0x11af9, 0x11aff), (0x11b0a, 0x11b5f),
  (0x11b68, 0x11bbf), (0x11be2, 0x11bef), (0x11bfa, 0x11bff), (0x11c09, 0x11c09),
  (0x11c37, 0x11c37), (0x11c46, 0x11c4f), (0x11c6d, 0x11c6f), (0x11c90, 0x11c91),
  (0x11ca8, 0x11ca8), (0x11cb7, 0x11cff), (0x11d07, 0x11d07), (0x11d0a, 0x11d0a),
  (0x11d37, 0x11d39), (0x11d3b, 0x11d3b), (0x11d3e, 0x11d3e), (0x11d48, 0x11d4f),
  (0x11d5a, 0x11d5f), (0x11d66, 0x11d66), (0x11d69, 0x11d69), (0x11d8f, 0x11d8f),
  (0x11d92, 0x11d92), (0x11d99, 0x11d9f), (0x11daa, 0x11daf), (0x11ddc, 0x11ddf),
  (0x11dea, 0x11edf), (0x11ef9, 0x11eff), (0x11f11, 0x11f11), (0x11f3b, 0x11f3d),
  (0x11f5b, 0x11faf), (0x11fb1, 0x11fbf), (0x11ff2, 0x11ffe), (0x1239a, 0x123ff),
  (0x1246f, 0x1246f), (0x12475, 0x1247f), (0x12544, 0x12f8f), (0x12ff3, 0x12fff),
  (0x13430, 0x1343f), (0x13456, 0x1345f), (0x143fb, 0x143ff), (0x14647, 0x160ff),
  (0x1613a, 0x167ff), (0x16a39, 0x16a3f), (0x16a5f, 0x16a5f), (0x16a6a, 0x16a6d),
  (0x16abf, 0x16abf), (0x16aca, 0x16acf), (0x16aee, 0x16aef), (0x16af6, 0x16aff),
  (0x16b46, 0x16b4f), (0x16b5a, 0x16b5a), (0x16b62, 0x16b62), (0x16b78, 0x16b7c),
  (0x16b90, 0x16d3f), (0x16d7a, 0x16e3f), (0x16e9b, 0x16e9f), (0x16eb9, 0x16eba),
  (0x16ed4, 0x16eff), (0x16f4b, 0x16f4e), (0x16f88, 0x16f8e), (0x16fa0, 0x16fdf),
  (0x16fe5, 0x16fef), (0x16ff7, 0x16fff), (0x18cd6, 0x18cfe), (0x18d1f, 0x18d7f),
  (0x18df3, 0x1afef), (0x1aff4, 0x1aff4), (0x1affc, 0x1affc), (0x1afff, 0x1afff),
  (0x1b123, 0x1b131), (0x1b133, 0x1b14f), (0x1b153, 0x1b154), (0x1b156, 0x1b163),
  (0x1b168, 0x1b16f), (0x1b2fc, 0x1bbff), (0x1bc6b, 0x1bc6f), (0x1bc7d, 0x1bc7f),
  (0x1bc89, 0x1bc8f), (0x1bc9a, 0x1bc9b), (0x1bca4, 0x1cbff), (0x1ccfd, 0x1ccff),
  (0x1ceb4, 0x1ceb9), (0x1ced1, 0x1cedf), (0x1cef1, 0x1ceff), (0x1cf2e, 0x1cf2f),
  (0x1cf47, 0x1cf4f), (0x1cfc4, 0x1cfff), (0x1d0f6, 0x1d0ff), (0x1d127, 0x1d128),
  (0x1d1eb, 0x1d1ff), (0x1d246, 0x1d2bf), (0x1d2d4, 0x1d2df), (0x1d2f4, 0x1d2ff),
  (0x1d357, 0x1d35f), (0x1d379, 0x1d3ff), (0x1d455, 0x1d455), (0x1d49d, 0x1d49d),
  (0x1d4a0, 0x1d4a1), (0x1d4a3, 0x1d4a4), (0x1d4a7, 0x1d4a8), (0x1d4ad, 0x1d4ad),
  (0x1d4ba, 0x1d4ba), (0x1d4bc, 0x1d4bc), (0x1d4c4, 0x1d4c4), (0x1d506, 0x1d506),
  (0x1d50b, 0x1d50c), (0x1d515, 0x1d515), (0x1d51d, 0x1d51d), (0x1d53a, 0x1d53a),
  (0x1d53f, 0x1d53f), (0x1d545, 0x1d545), (0x1d547, 0x1d549), (0x1d551, 0x1d551),
  (0x1d6a6, 0x1d6a7), (0x1d7cc, 0x1d7cd), (0x1da8c, 0x1da9a), (0x1daa0, 0x1daa0),
  (0x1dab0, 0x1deff), (0x1df1f, 0x1df24), (0x1df2b, 0x1dfff), (0x1e007, 0x1e007),
  (0x1e019, 0x1e01a), (0x1e022, 0x1e022), (0x1e025, 0x1e025), (0x1e02b, 0x1e02f),
  (0x1e06e, 0x1e08e), (0x1e090, 0x1e0ff), (0x1e12d, 0x1e12f), (0x1e13e, 0x1e13f),
  (0x1e14a, 0x1e14d), (0x1e150, 0x1e28f), (0x1e2af, 0x1e2bf), (0x1e2fa, 0x1e2fe),
  (0x1e300, 0x1e4cf), (0x1e4fa, 0x1e5cf), (0x1e5fb, 0x1e5fe), (0x1e600, 0x1e6bf),
  (0x1e6df, 0x1e6df), (0x1e6f6, 0x1e6fd), (0x1e700, 0x1e7df), (0x1e7e7, 0x1e7e7),
  (0x1e7ec, 0x1e7ec), (0x1e7ef, 0x1e7ef), (0x1e7ff, 0x1e7ff), (0x1e8c5, 0x1e8c6),
  (0x1e8d7, 0x1e8ff), (0x1e94c, 0x1e94f), (0x1e95a, 0x1e95d), (0x1e960, 0x1ec70),
  (0x1ecb5, 0x1ed00), (0x1ed3e, 0x1edff), (0x1ee04, 0x1ee04), (0x1ee20, 0x1ee20),
  (0x1ee23, 0x1ee23), (0x1ee25, 0x1ee26), (0x1ee28, 0x1ee28), (0x1ee33, 0x1ee33),
  (0x1ee38, 0x1ee38), (0x1ee3a, 0x1ee3a), (0x1ee3c, 0x1ee41), (0x1ee43, 0x1ee46),
  (0x1ee48, 0x1ee48), (0x1ee4a, 0x1ee4a), (0x1ee4c, 0x1ee4c), (0x1ee50, 0x1ee50),
  (0x1ee53, 0x1ee53), (0x1ee55, 0x1ee56), (0x1ee58, 0x1ee58), (0x1ee5a, 0x1ee5a),
  (0x1ee5c, 0x1ee5c), (0x1ee5e, 0x1ee5e), (0x1ee60, 0x1ee60), (0x1ee63, 0x1ee63),
  (0x1ee65, 0x1ee66), (0x1ee6b, 0x1ee6b), (0x1ee73, 0x1ee73), (0x1ee78, 0x1ee78),
  (0x1ee7d, 0x1ee7d), (0x1ee7f, 0x1ee7f), (0x1ee8a, 0x1ee8a), (0x1ee9c, 0x1eea0),
  (0x1eea4, 0x1eea4), (0x1eeaa, 0x1eeaa), (0x1eebc, 0x1eeef), (0x1eef2, 0x1efff),
  (0x1f02c, 0x1f02f), (0x1f094, 0x1f09f), (0x1f0af, 0x1f0b0), (0x1f0c0, 0x1f0c0),
  (0x1f0d0, 0x1f0d0), (0x1f0f6, 0x1f100), (0x1f1ae, 0x1f1e5), (0x1f203, 0x1f20f),
  (0x1f23c, 0x1f23f), (0x1f249, 0x1f24f), (0x1f252, 0x1f25f), (0x1f266, 0x1f2ff),
  (0x1f6d9, 0x1f6db), (0x1f6ed, 0x1f6ef), (0x1f6fd, 0x1f6ff), (0x1f7da, 0x1f7df),
  (0x1f7ec, 0x1f7ef), (0x1f7f1, 0x1f7ff), (0x1f80c, 0x1f80f), (0x1f848, 0x1f84f),
  (0x1f85a, 0x1f85f), (0x1f888, 0x1f88f), (0x1f8ae, 0x1f8af), (0x1f8bc, 0x1f8bf),
  (0x1f8c2, 0x1f8cf), (0x1f8d9, 0x1f8ff), (0x1fa58, 0x1fa5f), (0x1fa6e, 0x1fa6f),
  (0x1fa7d, 0x1fa7f), (0x1fa8b, 0x1fa8d), (0x1fac7, 0x1fac7), (0x1fac9, 0x1facc),
  (0x1fadd, 0x1fade), (0x1faeb, 0x1faee), (0x1faf9, 0x1faff), (0x1fb93, 0x1fb93),
  (0x1fbfb, 0x1ffff), (0x2a6e0, 0x2a6ff), (0x2b81e, 0x2b81f), (0x2ceae, 0x2ceaf),
  (0x2ebe1, 0x2ebef), (0x2ee5e, 0x2f7ff), (0x2fa1e, 0x2ffff), (0x3134b, 0x3134f),
  (0x3347a, 0xe00ff), (0xe01f0, 0x10ffff)]

/-- Code points that stand for others, as far as they are no capitals. -/
def standInRanges : Ranges := [
  (0xb5, 0xb5), (0x2b1, 0x2b6), (0x2e0, 0x2e4), (0x340, 0x341), (0x343, 0x345), (0x374, 0x374),
  (0x387, 0x387), (0x3d0, 0x3d6), (0x3f0, 0x3f2), (0x3f5, 0x3f5), (0x587, 0x587), (0x675, 0x678),
  (0x958, 0x95f), (0x9dc, 0x9df), (0xa33, 0xa33), (0xa36, 0xa36), (0xa59, 0xa5b), (0xa5e, 0xa5e),
  (0xb5c, 0xb5d), (0xe33, 0xe33), (0xeb3, 0xeb3), (0xedc, 0xedd), (0xf0c, 0xf0c), (0xf43, 0xf43),
  (0xf4d, 0xf4d), (0xf52, 0xf52), (0xf57, 0xf57), (0xf5c, 0xf5c), (0xf69, 0xf69), (0xf73, 0xf73),
  (0xf75, 0xf79), (0xf81, 0xf81), (0xf93, 0xf93), (0xf9d, 0xf9d), (0xfa2, 0xfa2), (0xfa7, 0xfa7),
  (0xfac, 0xfac), (0xfb9, 0xfb9), (0x10fc, 0x10fc), (0x13f8, 0x13fd), (0x1c80, 0x1c88),
  (0x1d2d, 0x1d2d), (0x1d32, 0x1d32), (0x1d3d, 0x1d4c), (0x1d51, 0x1d6a), (0x1d78, 0x1d78),
  (0x1d9b, 0x1dbf), (0x1e9b, 0x1e9b), (0x1f71, 0x1f71), (0x1f73, 0x1f73), (0x1f75, 0x1f75),
  (0x1f77, 0x1f77), (0x1f79, 0x1f79), (0x1f7b, 0x1f7b), (0x1f7d, 0x1fa7), (0x1fb2, 0x1fb4),
  (0x1fb7, 0x1fc4), (0x1fc7, 0x1fc7), (0x1fd3, 0x1fd3), (0x1fe3, 0x1fe3), (0x1ff2, 0x1ff4),
  (0x1ff7, 0x1ff7), (0x2011, 0x2011), (0x2033, 0x2034), (0x2036, 0x2037), (0x2057, 0x2057),
  (0x207b, 0x2094), (0x2107, 0x2107), (0x210f, 0x210f), (0x2135, 0x2138), (0x213c, 0x2140),
  (0x222c, 0x222d), (0x222f, 0x2230), (0x2329, 0x232a), (0x2a0c, 0x2a0c), (0x2adc, 0x2adc),
  (0x2d6f, 0x2d6f), (0x2e9f, 0x2e9f), (0x2ef3, 0x2fd5), (0x3036, 0x3036), (0x3038, 0x303a),
  (0x309f, 0x309f), (0x30ff, 0x30ff), (0x3131, 0x3163), (0x3165, 0x318e), (0x3192, 0x319f),
  (0x3244, 0x3247), (0x3260, 0x327e), (0x3280, 0x337f), (0xa69c, 0xa69d), (0xa770, 0xa770),
  (0xa7f8, 0xa7f9), (0xab5c, 0xab5f), (0xab69, 0xab69), (0xab70, 0xabbf), (0xf900, 0xfa0d),
  (0xfa10, 0xfa10), (0xfa12, 0xfa12), (0xfa15, 0xfa1e), (0xfa20, 0xfa20), (0xfa22, 0xfa22),
  (0xfa25, 0xfa26), (0xfa2a, 0xfb1d), (0xfb1f, 0xfbb1), (0xfbd3, 0xfd3d), (0xfd50, 0xfd8f),
  (0xfd92, 0xfdc7), (0xfdf0, 0xfdfc), (0xfe11, 0xfe18), (0xfe31, 0xfe44), (0xfe51, 0xfe71),
  (0xfe77, 0xfefc), (0xff5f, 0xff9f), (0xffa1, 0xffee), (0x10781, 0x107ba), (0x1d15e, 0x1d164),
  (0x1d1bb, 0x1d1c0), (0x1d6a4, 0x1d7cb), (0x1e030, 0x1e06d), (0x1ee00, 0x1eebb),
  (0x1f200, 0x1f251), (0x2f800, 0x2fa1d)]

/-- Characters that stand for a single character of ASCII: the first of a row and the characters
that the row stands for. -/
def narrowForms : List (Nat × String) := [
  (0xaa, "a"), (0xb2, "23"), (0xb9, "1o"), (0x17f, "s"), (0x2b0, "h"), (0x2b2, "jr"),
  (0x2b7, "wy"), (0x2e1, "lsx"), (0x37e, ";"), (0x1d2c, "a"), (0x1d2e, "b"), (0x1d30, "de"),
  (0x1d33, "ghijklmn"), (0x1d3c, "o"), (0x1d3e, "prtuwa"), (0x1d47, "bde"), (0x1d4d, "g"),
  (0x1d4f, "km"), (0x1d52, "o"), (0x1d56, "ptu"), (0x1d5b, "v"), (0x1d62, "iruv"), (0x1d9c, "c"),
  (0x1da0, "f"), (0x1dbb, "z"), (0x1fef, "\x60"), (0x2070, "0i"), (0x2074, "456789+"),
  (0x207c, "=()n0123456789+"), (0x208c, "=()"), (0x2090, "aeox"), (0x2095, "hklmnpst"),
  (0x2102, "c"), (0x210a, "ghhhh"), (0x2110, "iill"), (0x2115, "n"), (0x2119, "pqrrr"),
  (0x2124, "z"), (0x2128, "z"), (0x212a, "k"), (0x212c, "bc"), (0x212f, "eef"), (0x2133, "mo"),
  (0x2139, "i"), (0x2145, "ddeij"), (0x2160, "i"), (0x2164, "v"), (0x2169, "x"), (0x216c, "lcdmi"),
  (0x2174, "v"), (0x2179, "x"), (0x217c, "lcdm"), (0x2460, "123456789"),
  (0x24b6, "abcdefghijklmnopqrstuvwxyzabcdefghijklmnopqrstuvwxyz0"), (0x2c7c, "jv"), (0x3002, "."),
  (0xa7f1, "scfq"), (0xfb29, "+"), (0xfe10, ","), (0xfe14, ";!"), (0xfe33, "__()\x7b\x7d"),
  (0xfe4d, "___,"), (0xfe54, ";"), (0xfe57, "!"), (0xfe59, "()\x7b\x7d"), (0xfe60, "&*+-<>="),
  (0xfe69, "$"), (0xff01, "!\""), (0xff04, "$"), (0xff06, "&'()*+,-."), (0xff10, "0123456789"),
  (0xff1b, ";<=>"), (0xff21, "abcdefghijklmnopqrstuvwxyz"),
  (0xff3f, "_\x60abcdefghijklmnopqrstuvwxyz\x7b"), (0xff5d, "\x7d~"), (0xff61, "."),
  (0x107a5, "q"), (0x1ccd6, "abcdefghijklmnopqrstuvwxyz0123456789"),
  (0x1d400, "abcdefghijklmnopqrstuvwxyzabcdefghijklmnopqrstuvwxyzabcdefghijklmnopqrst"),
  (0x1d448, "uvwxyzabcdefg"),
  (0x1d456, "ijklmnopqrstuvwxyzabcdefghijklmnopqrstuvwxyzabcdefghijklmnopqrstuvwxyza"),
  (0x1d49e, "cd"), (0x1d4a2, "g"), (0x1d4a5, "jk"), (0x1d4a9, "nopq"), (0x1d4ae, "stuvwxyzabcd"),
  (0x1d4bb, "f"), (0x1d4bd, "hijklmn"),
  (0x1d4c5, "pqrstuvwxyzabcdefghijklmnopqrstuvwxyzabcdefghijklmnopqrstuvwxyzab"),
  (0x1d507, "defg"), (0x1d50d, "jklmnopq"), (0x1d516, "stuvwxy"),
  (0x1d51e, "abcdefghijklmnopqrstuvwxyzab"), (0x1d53b, "defg"), (0x1d540, "ijklm"), (0x1d546, "o"),
  (0x1d54a, "stuvwxy"),
  (0x1d552, "abcdefghijklmnopqrstuvwxyzabcdefghijklmnopqrstuvwxyzabcdefghijklmnopqrst"),
  (0x1d59a, "uvwxyzabcdefghijklmnopqrstuvwxyzabcdefghijklmnopqrstuvwxyzabcdefghijklmn"),
  (0x1d5e2, "opqrstuvwxyzabcdefghijklmnopqrstuvwxyzabcdefghijklmnopqrstuvwxyzabcdefgh"),
  (0x1d62a, "ijklmnopqrstuvwxyzabcdefghijklmnopqrstuvwxyzabcdefghijklmnopqrstuvwxyzab"),
  (0x1d672, "cdefghijklmnopqrstuvwxyzabcdefghijklmnopqrstuvwxyz"),
  (0x1d7ce, "01234567890123456789012345678901234567890123456789"), (0x1f12b, "cr"),
  (0x1f130, "abcdefghijklmnopqrstuvwxyz"), (0x1fbf0, "0123456789")]

/-- Characters that stand for several characters, at least one of ASCII: the first of a row and
the texts that the row stands for, between spaces. -/
def wideForms : List (Nat × String) := [
  (0xbc, "1\u20444 1\u20442 3\u20444"), (0x130, "i\u0307"), (0x132, "ij ij"),
  (0x13f, "l\u00b7 l\u00b7"), (0x149, "\u02bcn"),
  (0x1c4, "d\u017e d\u017e d\u017e lj lj lj nj nj nj"), (0x1f1, "dz dz dz"), (0x1e9a, "a\u02be"),
  (0x203c, "!!"), (0x20a8, "rs"), (0x2103, "\u00b0c"), (0x2109, "\u00b0f"), (0x2116, "no"),
  (0x2120, "sm tel tm"), (0x213b, "fax"),
  (0x2150, "1\u20447 1\u20449 1\u204410 1\u20443 2\u20443 1\u20445 2\u20445 3\u20445"),
  (0x2158, "4\u20445 1\u20446 5\u20446 1\u20448 3\u20448 5\u20448 7\u20448 1\u2044"),
  (0x2161, "ii iii iv"), (0x2165, "vi vii viii ix"), (0x216a, "xi xii"), (0x2171, "ii iii iv"),
  (0x2175, "vi vii viii ix"), (0x217a, "xi xii"), (0x2189, "0\u20443"),
  (0x2469, "10 11 12 13 14 15 16 17 18 19 20 (1) (2) (3) (4) (5) (6) (7) (8) (9)"),
  (0x247d, "(10) (11) (12) (13) (14) (15) (16) (17) (18) (19) (20)"),
  (0x249c, "(a) (b) (c) (d) (e) (f) (g) (h) (i) (j) (k) (l) (m) (n) (o) (p) (q) (r)"),
  (0x24ae, "(s) (t) (u) (v) (w) (x) (y) (z)"), (0x2a75, "== ==="),
  (0x3200, "(\u1100) (\u1102) (\u1103) (\u1105) (\u1106) (\u1107) (\u1109) (\u110b)"),
  (0x3208, "(\u110c) (\u110e) (\u110f) (\u1110) (\u1111) (\u1112) (\uac00) (\ub098)"),
  (0x3210, "(\ub2e4) (\ub77c) (\ub9c8) (\ubc14) (\uc0ac) (\uc544) (\uc790) (\ucc28)"),
  (0x3218, "(\uce74) (\ud0c0) (\ud30c) (\ud558) (\uc8fc) (\uc624\uc804)"),
  (0x321e, "(\uc624\ud6c4)"),
  (0x3220, "(\u4e00) (\u4e8c) (\u4e09) (\u56db) (\u4e94) (\u516d) (\u4e03) (\u516b)"),
  (0x3228, "(\u4e5d) (\u5341) (\u6708) (\u706b) (\u6c34) (\u6728) (\u91d1) (\u571f)"),
  (0x3230, "(\u65e5) (\u682a) (\u6709) (\u793e) (\u540d) (\u7279) (\u8ca1) (\u795d)"),
  (0x3238, "(\u52b4) (\u4ee3) (\u547c) (\u5b66) (\u76e3) (\u4f01) (\u8cc7) (\u5354)"),
  (0x3240, "(\u796d) (\u4f11) (\u81ea) (\u81f3)"),
  (0x3250, "pte 21 22 23 24 25 26 27 28 29 30 31 32 33 34 35"),
  (0x32b1, "36 37 38 39 40 41 42 43 44 45 46 47 48 49 50 1\u6708 2\u6708 3\u6708"),
  (0x32c3, "4\u6708 5\u6708 6\u6708 7\u6708 8\u6708 9\u6708 10\u6708 11\u6708"),
  (0x32cb, "12\u6708 hg erg ev ltd"),
  (0x3358, "0\u70b9 1\u70b9 2\u70b9 3\u70b9 4\u70b9 5\u70b9 6\u70b9 7\u70b9 8\u70b9"),
  (0x3361, "9\u70b9 10\u70b9 11\u70b9 12\u70b9 13\u70b9 14\u70b9 15\u70b9 16\u70b9"),
  (0x3369, "17\u70b9 18\u70b9 19\u70b9 20\u70b9 21\u70b9 22\u70b9 23\u70b9 24\u70b9"),
  (0x3371, "hpa da au bar ov pc dm dm2 dm3 iu"),
  (0x3380, "pa na \u03bca ma ka kb mb gb cal kcal pf nf \u03bcf \u03bcg mg kg hz khz"),
  (0x3392, "mhz ghz thz \u03bcl ml dl kl fm nm \u03bcm mm cm km mm2 cm2 m2 km2 mm3"),
  (0x33a4, "cm3 m3 km3 m\u2215s m\u2215s2 pa kpa mpa gpa rad rad\u2215s rad\u2215s2"),
  (0x33b0, "ps ns \u03bcs ms pv nv \u03bcv mv kv mv pw nw \u03bcw mw kw mw k\u03c9"),
  (0x33c1, "m\u03c9"), (0x33c3, "bq cc cd c\u2215kg"),
  (0x33c8, "db gy ha hp in kk km kt lm ln log lx mb mil mol ph"),
  (0x33d9, "ppm pr sr sv wb v\u2215m a\u2215m 1\u65e5 2\u65e5 3\u65e5 4\u65e5"),
  (0x33e4, "5\u65e5 6\u65e5 7\u65e5 8\u65e5 9\u65e5 10\u65e5 11\u65e5 12\u65e5"),
  (0x33ec, "13\u65e5 14\u65e5 15\u65e5 16\u65e5 17\u65e5 18\u65e5 19\u65e5 20\u65e5"),
  (0x33f4, "21\u65e5 22\u65e5 23\u65e5 24\u65e5 25\u65e5 26\u65e5 27\u65e5 28\u65e5"),
  (0x33fc, "29\u65e5 30\u65e5 31\u65e5 gal"), (0xfb00, "ff fi fl ffi ffl st st"),
  (0x1f101, "0, 1, 2, 3, 4, 5, 6, 7, 8, 9,"),
  (0x1f110, "(a) (b) (c) (d) (e) (f) (g) (h) (i) (j) (k) (l) (m) (n) (o) (p) (q) (r)"),
  (0x1f122, "(s) (t) (u) (v) (w) (x) (y) (z) \u3014s\u3015"), (0x1f12d, "cd wz"),
  (0x1f14a, "hv mv sd ss ppv wc"), (0x1f16a, "mc md mr"), (0x1f190, "dj"),
  (0x1f240, "\u3014\u672c\u3015 \u3014\u4e09\u3015 \u3014\u4e8c\u3015"),
  (0x1f243, "\u3014\u5b89\u3015 \u3014\u70b9\u3015 \u3014\u6253\u3015"),
  (0x1f246, "\u3014\u76d7\u3015 \u3014\u52dd\u3015 \u3014\u6557\u3015")]

/-- The text at a code point of the row that starts at a code point. -/
def inRow? (first : Nat) (texts : List (List Char)) (code : Nat) : Option (List Char) :=
  if first ≤ code then texts[code - first]? else none

/-- The text that a character stands for. -/
def form (c : Char) : List Char :=
  if c.toNat < 0x80 then [c]
  else
    let narrow := narrowForms.findSome? fun (first, row) =>
      inRow? first (row.toList.map fun letter => [letter]) c.toNat
    let wide := wideForms.findSome? fun (first, row) =>
      inRow? first (Text.splitAt ' ' row.toList) c.toNat
    (narrow.or wide).getD [c]

def isIgnored (c : Char) : Bool := ignoredRanges.holds c.toNat

def isUnusable (c : Char) : Bool := unusableRanges.holds c.toNat

/-- Whether a character stands for its small letter; capitals of Cherokee stand for themselves. -/
def isCapital (c : Char) : Bool :=
  toSmall c ≠ c && !(0x13a0 ≤ c.toNat && c.toNat ≤ 0x13f5)

def standsForItself (c : Char) : Bool :=
  !isCapital c &&
    (c.toNat < 0x80 ||
      (!isIgnored c && !isUnusable c && form c == [c] && !standInRanges.holds c.toNat))

end PostMarkup.Url.Domain
