/-!
# Letters, digits and their plain forms

The character classes behind word search: which characters belong to words, their
small forms, and the plain Latin letters under the accented ones.

The tables follow version 6.1 of the character standard. Words are made of
letters, numbers and private-use characters, and of every character that this
version does not know; what it knows as a mark, punctuation, a symbol, a blank
or a control stands between words.
-/

namespace SymbolAtlas.Text

/-- The characters outside of words from the Latin to the Hebrew block. -/
def europeanSeparators : List (Nat × Nat) :=
  [
    (128, 169), (171, 177), (180, 180), (182, 184), (187, 187), (191, 191), (215, 215), (247, 247),
    (706, 709), (722, 735), (741, 747), (749, 749), (751, 767), (773, 773), (781, 782), (784, 784),
    (786, 794), (796, 802), (809, 812), (815, 815), (818, 879), (885, 885), (894, 894), (900, 901),
    (903, 903), (1014, 1014), (1154, 1161), (1370, 1375), (1417, 1418), (1423, 1423), (1425, 1479),
    (1523, 1524)
  ]

/-- The characters outside of words from the Arabic to the Tamil block. -/
def middleEasternSeparators : List (Nat × Nat) :=
  [
    (1536, 1540), (1542, 1563), (1566, 1567), (1611, 1631), (1642, 1645), (1648, 1648),
    (1748, 1748), (1750, 1764), (1767, 1773), (1789, 1790), (1792, 1805), (1807, 1807),
    (1809, 1809), (1840, 1866), (1958, 1968), (2027, 2035), (2038, 2041), (2070, 2073),
    (2075, 2083), (2085, 2087), (2089, 2093), (2096, 2110), (2137, 2139), (2142, 2142),
    (2276, 2302), (2304, 2307), (2362, 2364), (2366, 2383), (2385, 2391), (2402, 2405),
    (2416, 2416), (2433, 2435), (2492, 2492), (2494, 2500), (2503, 2504), (2507, 2509),
    (2519, 2519), (2530, 2531), (2546, 2547), (2554, 2555), (2561, 2563), (2620, 2620),
    (2622, 2626), (2631, 2632), (2635, 2637), (2641, 2641), (2672, 2673), (2677, 2677),
    (2689, 2691), (2748, 2748), (2750, 2757), (2759, 2761), (2763, 2765), (2786, 2787),
    (2800, 2801), (2817, 2819), (2876, 2876), (2878, 2884), (2887, 2888), (2891, 2893),
    (2902, 2903), (2914, 2915), (2928, 2928), (2946, 2946), (3006, 3010), (3014, 3016),
    (3018, 3021), (3031, 3031), (3059, 3066)
  ]

/-- The characters outside of words from the Telugu block to the Hangul letters. -/
def southAsianSeparators : List (Nat × Nat) :=
  [
    (3073, 3075), (3134, 3140), (3142, 3144), (3146, 3149), (3157, 3158), (3170, 3171),
    (3199, 3199), (3202, 3203), (3260, 3260), (3262, 3268), (3270, 3272), (3274, 3277),
    (3285, 3286), (3298, 3299), (3330, 3331), (3390, 3396), (3398, 3400), (3402, 3405),
    (3415, 3415), (3426, 3427), (3449, 3449), (3458, 3459), (3530, 3530), (3535, 3540),
    (3542, 3542), (3544, 3551), (3570, 3572), (3633, 3633), (3636, 3642), (3647, 3647),
    (3655, 3663), (3674, 3675), (3761, 3761), (3764, 3769), (3771, 3772), (3784, 3789),
    (3841, 3871), (3892, 3903), (3953, 3975), (3981, 3991), (3993, 4028), (4030, 4044),
    (4046, 4058), (4139, 4158), (4170, 4175), (4182, 4185), (4190, 4192), (4194, 4196),
    (4199, 4205), (4209, 4212), (4226, 4237), (4239, 4239), (4250, 4255), (4347, 4347)
  ]

/-- The characters outside of words from the Ethiopic block to the extended Greek letters. -/
def otherSeparators : List (Nat × Nat) :=
  [
    (4957, 4968), (5008, 5017), (5120, 5120), (5741, 5742), (5760, 5760), (5787, 5788),
    (5867, 5869), (5906, 5908), (5938, 5942), (5970, 5971), (6002, 6003), (6068, 6102),
    (6104, 6107), (6109, 6109), (6144, 6158), (6313, 6313), (6432, 6443), (6448, 6459),
    (6464, 6464), (6468, 6469), (6576, 6592), (6600, 6601), (6622, 6655), (6679, 6683),
    (6686, 6687), (6741, 6750), (6752, 6780), (6783, 6783), (6816, 6822), (6824, 6829),
    (6912, 6916), (6964, 6980), (7002, 7036), (7040, 7042), (7073, 7085), (7142, 7155),
    (7164, 7167), (7204, 7223), (7227, 7231), (7294, 7295), (7360, 7367), (7376, 7400),
    (7405, 7405), (7410, 7412), (7616, 7654), (7676, 7679), (8125, 8125), (8127, 8129),
    (8141, 8143), (8157, 8159), (8173, 8175), (8189, 8190)
  ]

/-- The characters outside of words among the symbols, the East Asian scripts and the
presentation forms. -/
def symbolicSeparators : List (Nat × Nat) :=
  [
    (8192, 8292), (8298, 8303), (8314, 8318), (8330, 8334), (8352, 8377), (8400, 8432),
    (8448, 8449), (8451, 8454), (8456, 8457), (8468, 8468), (8470, 8472), (8478, 8483),
    (8485, 8485), (8487, 8487), (8489, 8489), (8494, 8494), (8506, 8507), (8512, 8516),
    (8522, 8525), (8527, 8527), (8592, 9203), (9216, 9254), (9280, 9290), (9372, 9449),
    (9472, 9983), (9985, 10101), (10132, 11084), (11088, 11097), (11493, 11498), (11503, 11505),
    (11513, 11516), (11518, 11519), (11632, 11632), (11647, 11647), (11744, 11822), (11824, 11835),
    (11904, 11929), (11931, 12019), (12032, 12245), (12272, 12283), (12288, 12292), (12296, 12320),
    (12330, 12336), (12342, 12343), (12349, 12351), (12441, 12444), (12448, 12448), (12539, 12539),
    (12688, 12689), (12694, 12703), (12736, 12771), (12800, 12830), (12842, 12871), (12880, 12880),
    (12896, 12927), (12938, 12976), (12992, 13054), (13056, 13311), (19904, 19967), (42128, 42182),
    (42238, 42239), (42509, 42511), (42607, 42622), (42655, 42655), (42736, 42743), (42752, 42774),
    (42784, 42785), (42889, 42890), (43010, 43010), (43014, 43014), (43019, 43019), (43043, 43051),
    (43062, 43065), (43124, 43127), (43136, 43137), (43188, 43204), (43214, 43215), (43232, 43249),
    (43256, 43258), (43302, 43311), (43335, 43347), (43359, 43359), (43392, 43395), (43443, 43469),
    (43486, 43487), (43561, 43574), (43587, 43587), (43596, 43597), (43612, 43615), (43639, 43641),
    (43643, 43643), (43696, 43696), (43698, 43700), (43703, 43704), (43710, 43711), (43713, 43713),
    (43742, 43743), (43755, 43761), (43765, 43766), (44003, 44013), (64286, 64286), (64297, 64297),
    (64434, 64449), (64830, 64831), (65020, 65021), (65024, 65049), (65056, 65062), (65072, 65106),
    (65108, 65126), (65128, 65131), (65279, 65279), (65281, 65295), (65306, 65312), (65339, 65344),
    (65371, 65381), (65504, 65510), (65512, 65518), (65529, 65535)
  ]

/-- The characters outside of words beyond the basic plane. -/
def supplementarySeparators : List (Nat × Nat) :=
  [
    (65792, 65794), (65847, 65855), (65913, 65929), (65936, 65947), (66000, 66045), (66463, 66463),
    (66512, 66512), (67671, 67671), (67871, 67871), (67903, 67903), (68097, 68099), (68101, 68102),
    (68108, 68111), (68152, 68154), (68159, 68159), (68176, 68184), (68223, 68223), (68409, 68415),
    (69632, 69634), (69688, 69709), (69760, 69762), (69808, 69825), (69888, 69890), (69927, 69940),
    (69952, 69955), (70016, 70018), (70067, 70080), (70085, 70088), (71339, 71351), (74864, 74867),
    (94033, 94078), (94095, 94098), (118784, 119029), (119040, 119078), (119081, 119261),
    (119296, 119365), (119552, 119638), (120513, 120513), (120539, 120539), (120571, 120571),
    (120597, 120597), (120629, 120629), (120655, 120655), (120687, 120687), (120713, 120713),
    (120745, 120745), (120771, 120771), (126704, 126705), (126976, 127019), (127024, 127123),
    (127136, 127150), (127153, 127166), (127169, 127183), (127185, 127199), (127248, 127278),
    (127280, 127339), (127344, 127386), (127462, 127490), (127504, 127546), (127552, 127560),
    (127568, 127569), (127744, 127776), (127792, 127797), (127799, 127868), (127872, 127891),
    (127904, 127940), (127942, 127946), (127968, 127984), (128000, 128062), (128064, 128064),
    (128066, 128247), (128249, 128252), (128256, 128317), (128320, 128323), (128336, 128359),
    (128507, 128576), (128581, 128591), (128640, 128709), (128768, 128883), (917505, 917505),
    (917536, 917631), (917760, 917999)
  ]

/-- Whether a code point lies in one of the ranges. -/
def inTable (table : List (Nat × Nat)) (n : Nat) : Bool :=
  table.any fun (low, high) => low ≤ n && n ≤ high

/-- Whether a code point beyond ASCII stands between words. -/
def isSeparator (n : Nat) : Bool :=
  if n < 0x600 then inTable europeanSeparators n
  else if n < 0xC00 then inTable middleEasternSeparators n
  else if n < 0x1200 then inTable southAsianSeparators n
  else if n < 0x2000 then inTable otherSeparators n
  else if n < 0x10000 then inTable symbolicSeparators n
  else inTable supplementarySeparators n

/-- Marks that combine with the letter before them. -/
def combiningMarks : List (Nat × Nat) :=
  [
    (768, 772), (774, 780), (783, 783), (785, 785), (795, 795), (803, 808), (813, 814), (816, 817)
  ]

/-- A mark that continues a word and leaves no trace in it. -/
def isCombiningMark (c : Char) : Bool :=
  inTable combiningMarks c.toNat

/-- A character that can begin a word. -/
def isWordChar (c : Char) : Bool :=
  if c.toNat < 128 then c.isAlphanum
  else !isSeparator c.toNat && !isCombiningMark c

/-- Runs of capital letters beyond ASCII: the first, the last, the distance
between neighbours, and what is added to reach the small form. -/
def capitals : List (Nat × Nat × Nat × Int) :=
  [
    (181, 181, 1, 775), (192, 214, 1, 32), (216, 222, 1, 32), (256, 302, 2, 1), (306, 310, 2, 1),
    (313, 327, 2, 1), (330, 374, 2, 1), (376, 376, 1, -121), (377, 381, 2, 1), (383, 383, 1, -268),
    (385, 385, 1, 210), (386, 388, 2, 1), (390, 390, 1, 206), (391, 391, 1, 1), (393, 394, 1, 205),
    (395, 395, 1, 1), (398, 398, 1, 79), (399, 399, 1, 202), (400, 400, 1, 203), (401, 401, 1, 1),
    (403, 403, 1, 205), (404, 404, 1, 207), (406, 406, 1, 211), (407, 407, 1, 209),
    (408, 408, 1, 1), (412, 412, 1, 211), (413, 413, 1, 213), (415, 415, 1, 214), (416, 420, 2, 1),
    (422, 422, 1, 218), (423, 423, 1, 1), (425, 425, 1, 218), (428, 428, 1, 1), (430, 430, 1, 218),
    (431, 431, 1, 1), (433, 434, 1, 217), (435, 437, 2, 1), (439, 439, 1, 219), (440, 440, 1, 1),
    (444, 444, 1, 1), (452, 452, 1, 2), (453, 453, 1, 1), (455, 455, 1, 2), (456, 456, 1, 1),
    (458, 458, 1, 2), (459, 475, 2, 1), (478, 494, 2, 1), (497, 497, 1, 2), (498, 500, 2, 1),
    (502, 502, 1, -97), (503, 503, 1, -56), (504, 542, 2, 1), (544, 544, 1, -130), (546, 562, 2, 1),
    (570, 570, 1, 10795), (571, 571, 1, 1), (573, 573, 1, -163), (574, 574, 1, 10792),
    (577, 577, 1, 1), (579, 579, 1, -195), (580, 580, 1, 69), (581, 581, 1, 71), (582, 590, 2, 1),
    (880, 882, 2, 1), (886, 886, 1, 1), (902, 902, 1, 38), (904, 906, 1, 37), (908, 908, 1, 64),
    (910, 911, 1, 63), (913, 929, 1, 32), (931, 939, 1, 32), (962, 962, 1, 1), (975, 975, 1, 8),
    (976, 976, 1, -30), (977, 977, 1, -25), (981, 981, 1, -15), (982, 982, 1, -22),
    (984, 1006, 2, 1), (1008, 1008, 1, -54), (1009, 1009, 1, -48), (1012, 1012, 1, -60),
    (1013, 1013, 1, -64), (1015, 1015, 1, 1), (1017, 1017, 1, -7), (1018, 1018, 1, 1),
    (1021, 1023, 1, -130), (1024, 1039, 1, 80), (1040, 1071, 1, 32), (1120, 1152, 2, 1),
    (1162, 1214, 2, 1), (1216, 1216, 1, 15), (1217, 1229, 2, 1), (1232, 1318, 2, 1),
    (1329, 1366, 1, 48), (4256, 4293, 1, 7264), (4295, 4295, 1, 7264), (4301, 4301, 1, 7264),
    (7680, 7828, 2, 1), (7835, 7835, 1, -58), (7838, 7838, 1, -7615), (7840, 7934, 2, 1),
    (7944, 7951, 1, -8), (7960, 7965, 1, -8), (7976, 7983, 1, -8), (7992, 7999, 1, -8),
    (8008, 8013, 1, -8), (8025, 8031, 2, -8), (8040, 8047, 1, -8), (8072, 8079, 1, -8),
    (8088, 8095, 1, -8), (8104, 8111, 1, -8), (8120, 8121, 1, -8), (8122, 8123, 1, -74),
    (8124, 8124, 1, -9), (8126, 8126, 1, -7173), (8136, 8139, 1, -86), (8140, 8140, 1, -9),
    (8152, 8153, 1, -8), (8154, 8155, 1, -100), (8168, 8169, 1, -8), (8170, 8171, 1, -112),
    (8172, 8172, 1, -7), (8184, 8185, 1, -128), (8186, 8187, 1, -126), (8188, 8188, 1, -9),
    (8486, 8486, 1, -7517), (8490, 8490, 1, -8383), (8491, 8491, 1, -8262), (8498, 8498, 1, 28),
    (8544, 8559, 1, 16), (8579, 8579, 1, 1), (11264, 11310, 1, 48), (11360, 11360, 1, 1),
    (11362, 11362, 1, -10743), (11363, 11363, 1, -3814), (11364, 11364, 1, -10727),
    (11367, 11371, 2, 1), (11373, 11373, 1, -10780), (11374, 11374, 1, -10749),
    (11375, 11375, 1, -10783), (11376, 11376, 1, -10782), (11378, 11378, 1, 1),
    (11381, 11381, 1, 1), (11390, 11391, 1, -10815), (11392, 11490, 2, 1), (11499, 11501, 2, 1),
    (11506, 11506, 1, 1), (42560, 42604, 2, 1), (42624, 42646, 2, 1), (42786, 42798, 2, 1),
    (42802, 42862, 2, 1), (42873, 42875, 2, 1), (42877, 42877, 1, -35332), (42878, 42886, 2, 1),
    (42891, 42891, 1, 1), (42893, 42893, 1, -42280), (42896, 42898, 2, 1), (42912, 42920, 2, 1),
    (42922, 42922, 1, -42308), (65313, 65338, 1, 32), (66560, 66599, 1, 40)
  ]

/-- The small form of a letter, or the character itself. -/
def smallForm (c : Char) : Char :=
  let n := c.toNat
  if n < 128 then c.toLower
  else match capitals.find? fun (first, last, step, _) =>
      first ≤ n && n ≤ last && (n - first) % step == 0 with
    | some (_, _, _, shift) => Char.ofNat (n + shift).toNat
    | none => c

/-- Small letters with one mark each, and the plain letter below. -/
def accented : List (Nat × Nat × Char) :=
  [
    (224, 229, 'a'), (231, 231, 'c'), (232, 235, 'e'), (236, 239, 'i'), (241, 241, 'n'),
    (242, 246, 'o'), (249, 252, 'u'), (253, 253, 'y'), (255, 255, 'y'), (257, 261, 'a'),
    (263, 269, 'c'), (271, 271, 'd'), (275, 281, 'e'), (283, 283, 'e'), (285, 291, 'g'),
    (293, 293, 'h'), (297, 304, 'i'), (309, 309, 'j'), (311, 311, 'k'), (314, 318, 'l'),
    (324, 328, 'n'), (333, 337, 'o'), (341, 345, 'r'), (347, 353, 's'), (355, 357, 't'),
    (361, 367, 'u'), (369, 371, 'u'), (373, 373, 'w'), (375, 375, 'y'), (378, 382, 'z'),
    (417, 417, 'o'), (432, 432, 'u'), (462, 462, 'a'), (464, 464, 'i'), (466, 466, 'o'),
    (468, 468, 'u'), (487, 487, 'g'), (489, 489, 'k'), (491, 491, 'o'), (496, 496, 'j'),
    (501, 501, 'g'), (505, 505, 'n'), (513, 515, 'a'), (517, 519, 'e'), (521, 523, 'i'),
    (525, 527, 'o'), (529, 531, 'r'), (533, 535, 'u'), (537, 537, 's'), (539, 539, 't'),
    (543, 543, 'h'), (551, 551, 'a'), (553, 553, 'e'), (559, 559, 'o'), (563, 563, 'y'),
    (7681, 7681, 'a'), (7683, 7687, 'b'), (7691, 7697, 'd'), (7699, 7699, 'd'), (7705, 7707, 'e'),
    (7711, 7711, 'f'), (7713, 7713, 'g'), (7715, 7721, 'h'), (7723, 7723, 'h'), (7725, 7725, 'i'),
    (7729, 7733, 'k'), (7735, 7735, 'l'), (7739, 7741, 'l'), (7743, 7747, 'm'), (7749, 7755, 'n'),
    (7765, 7767, 'p'), (7769, 7771, 'r'), (7775, 7775, 'r'), (7777, 7779, 's'), (7787, 7793, 't'),
    (7795, 7799, 'u'), (7805, 7807, 'v'), (7809, 7815, 'w'), (7817, 7817, 'w'), (7819, 7821, 'x'),
    (7823, 7823, 'y'), (7825, 7829, 'z'), (7830, 7830, 'h'), (7831, 7831, 't'), (7832, 7832, 'w'),
    (7833, 7833, 'y'), (7841, 7843, 'a'), (7865, 7869, 'e'), (7881, 7883, 'i'), (7885, 7887, 'o'),
    (7909, 7911, 'u'), (7923, 7929, 'y')
  ]

/-- The plain small form of a character. -/
def plainForm (c : Char) : Char :=
  let small := smallForm c
  match accented.find? fun (low, high, _) => low ≤ small.toNat && small.toNat ≤ high with
  | some (_, _, plain) => plain
  | none => small

end SymbolAtlas.Text
