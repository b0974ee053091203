import WireShapes.Text.Property.Word

/-!
General categories of characters.

* `CodePoints`: code points by ranges
* `categories`, `categoryGroups`: the categories by name
-/

namespace WireShapes.Text

/-- Code points given by closed ranges, and by ranges of which every second code point belongs,
the ends among them. -/
structure CodePoints where
  solid : List (Nat × Nat)
  alternate : List (Nat × Nat)

/-- The code points as closed ranges, in no order. -/
def CodePoints.ranges (p : CodePoints) : List (Nat × Nat) :=
  p.solid ++ p.alternate.flatMap fun r =>
    (List.range ((r.2 - r.1) / 2 + 1)).map fun i => (r.1 + 2 * i, r.1 + 2 * i)

def capitalLetters : CodePoints where
  solid :=
    [(65, 90), (192, 214), (216, 222), (376, 377), (379, 379), (381, 381), (385, 386), (388, 388),
     (390, 391), (393, 395), (398, 401), (403, 404), (406, 408), (412, 413), (415, 416),
     (418, 418), (420, 420), (422, 423), (425, 425), (428, 428), (430, 431), (433, 435),
     (437, 437), (439, 440), (444, 444), (452, 452), (455, 455), (458, 458), (497, 497),
     (500, 500), (502, 504), (570, 571), (573, 574), (577, 577), (579, 582), (880, 880),
     (882, 882), (886, 886), (895, 895), (902, 902), (904, 906), (908, 908), (910, 911),
     (913, 929), (931, 939), (975, 975), (978, 980), (1012, 1012), (1015, 1015), (1017, 1018),
     (1021, 1071), (1216, 1217), (1329, 1366), (4256, 4293), (4295, 4295), (4301, 4301),
     (5024, 5109), (7305, 7305), (7312, 7354), (7357, 7359), (7944, 7951), (7960, 7965),
     (7976, 7983), (7992, 7999), (8008, 8013), (8040, 8047), (8120, 8123), (8136, 8139),
     (8152, 8155), (8168, 8172), (8184, 8187), (8450, 8450), (8455, 8455), (8459, 8461),
     (8464, 8466), (8469, 8469), (8473, 8477), (8490, 8493), (8496, 8499), (8510, 8511),
     (8517, 8517), (8579, 8579), (11264, 11311), (11360, 11360), (11362, 11364), (11373, 11376),
     (11378, 11378), (11381, 11381), (11390, 11392), (11499, 11499), (11501, 11501),
     (11506, 11506), (42873, 42873), (42875, 42875), (42877, 42878), (42891, 42891),
     (42893, 42893), (42896, 42896), (42898, 42898), (42922, 42926), (42928, 42932),
     (42948, 42951), (42953, 42953), (42955, 42956), (42997, 42997), (65313, 65338),
     (66560, 66599), (66736, 66771), (66928, 66938), (66940, 66954), (66956, 66962),
     (66964, 66965), (68736, 68786), (68944, 68965), (71840, 71871), (93760, 93791),
     (93856, 93880), (119808, 119833), (119860, 119885), (119912, 119937), (119964, 119964),
     (119966, 119967), (119970, 119970), (119973, 119974), (119977, 119980), (119982, 119989),
     (120016, 120041), (120068, 120069), (120071, 120074), (120077, 120084), (120086, 120092),
     (120120, 120121), (120123, 120126), (120128, 120132), (120134, 120134), (120138, 120144),
     (120172, 120197), (120224, 120249), (120276, 120301), (120328, 120353), (120380, 120405),
     (120432, 120457), (120488, 120512), (120546, 120570), (120604, 120628), (120662, 120686),
     (120720, 120744), (120778, 120778), (125184, 125217)]
  alternate :=
    [(256, 310), (313, 327), (330, 374), (461, 475), (478, 494), (506, 562), (584, 590),
     (984, 1006), (1120, 1152), (1162, 1214), (1219, 1229), (1232, 1326), (7680, 7828),
     (7838, 7934), (8025, 8031), (8484, 8488), (11367, 11371), (11394, 11490), (42560, 42604),
     (42624, 42650), (42786, 42798), (42802, 42862), (42880, 42886), (42902, 42920),
     (42934, 42946), (42958, 42972)]

def smallLetters : CodePoints where
  solid :=
    [(97, 122), (181, 181), (223, 246), (248, 255), (311, 312), (328, 329), (378, 378),
     (380, 380), (382, 384), (387, 387), (389, 389), (392, 392), (396, 397), (402, 402),
     (405, 405), (409, 411), (414, 414), (424, 424), (426, 427), (429, 429), (432, 432),
     (436, 436), (438, 438), (441, 442), (445, 447), (454, 454), (457, 457), (476, 477),
     (495, 496), (499, 499), (501, 501), (563, 569), (572, 572), (575, 576), (578, 578),
     (591, 659), (662, 687), (881, 881), (883, 883), (887, 887), (891, 893), (912, 912),
     (940, 974), (976, 977), (981, 983), (1007, 1011), (1013, 1013), (1016, 1016), (1019, 1020),
     (1072, 1119), (1230, 1231), (1376, 1416), (4304, 4346), (4349, 4351), (5112, 5117),
     (7296, 7304), (7306, 7306), (7424, 7467), (7531, 7543), (7545, 7578), (7829, 7837),
     (7935, 7943), (7952, 7957), (7968, 7975), (7984, 7991), (8000, 8005), (8016, 8023),
     (8032, 8039), (8048, 8061), (8064, 8071), (8080, 8087), (8096, 8103), (8112, 8116),
     (8118, 8119), (8126, 8126), (8130, 8132), (8134, 8135), (8144, 8147), (8150, 8151),
     (8160, 8167), (8178, 8180), (8182, 8183), (8458, 8458), (8462, 8463), (8467, 8467),
     (8495, 8495), (8500, 8500), (8505, 8505), (8508, 8509), (8518, 8521), (8526, 8526),
     (8580, 8580), (11312, 11359), (11361, 11361), (11365, 11366), (11377, 11377), (11379, 11380),
     (11382, 11387), (11491, 11492), (11500, 11500), (11502, 11502), (11507, 11507),
     (11520, 11557), (11559, 11559), (11565, 11565), (42799, 42801), (42865, 42872),
     (42874, 42874), (42876, 42876), (42892, 42892), (42894, 42894), (42897, 42897),
     (42899, 42901), (42927, 42927), (42952, 42952), (42954, 42954), (42998, 42998),
     (43002, 43002), (43824, 43866), (43872, 43880), (43888, 43967), (64256, 64262),
     (64275, 64279), (65345, 65370), (66600, 66639), (66776, 66811), (66967, 66977),
     (66979, 66993), (66995, 67001), (67003, 67004), (68800, 68850), (68976, 68997),
     (71872, 71903), (93792, 93823), (93883, 93907), (119834, 119859), (119886, 119892),
     (119894, 119911), (119938, 119963), (119990, 119993), (119995, 119995), (119997, 120003),
     (120005, 120015), (120042, 120067), (120094, 120119), (120146, 120171), (120198, 120223),
     (120250, 120275), (120302, 120327), (120354, 120379), (120406, 120431), (120458, 120485),
     (120514, 120538), (120540, 120545), (120572, 120596), (120598, 120603), (120630, 120654),
     (120656, 120661), (120688, 120712), (120714, 120719), (120746, 120770), (120772, 120777),
     (120779, 120779), (122624, 122633), (122635, 122654), (122661, 122666), (125218, 125251)]
  alternate :=
    [(257, 309), (314, 326), (331, 375), (417, 421), (460, 474), (479, 493), (505, 561),
     (583, 589), (985, 1005), (1121, 1153), (1163, 1215), (1218, 1228), (1233, 1327),
     (7681, 7827), (7839, 7933), (11368, 11372), (11393, 11489), (42561, 42605), (42625, 42651),
     (42787, 42797), (42803, 42863), (42879, 42887), (42903, 42921), (42933, 42947),
     (42957, 42971)]

def titleLetters : CodePoints where
  solid :=
    [(453, 453), (456, 456), (459, 459), (498, 498), (8072, 8079), (8088, 8095), (8104, 8111),
     (8124, 8124), (8140, 8140), (8188, 8188)]
  alternate := []

def modifierLetters : CodePoints where
  solid :=
    [(688, 705), (710, 721), (736, 740), (748, 748), (750, 750), (884, 884), (890, 890),
     (1369, 1369), (1600, 1600), (1765, 1766), (2036, 2037), (2042, 2042), (2074, 2074),
     (2084, 2084), (2088, 2088), (2249, 2249), (2417, 2417), (3654, 3654), (3782, 3782),
     (4348, 4348), (6103, 6103), (6211, 6211), (6823, 6823), (7288, 7293), (7468, 7530),
     (7544, 7544), (7579, 7615), (8305, 8305), (8319, 8319), (8336, 8348), (11388, 11389),
     (11631, 11631), (11823, 11823), (12293, 12293), (12337, 12341), (12347, 12347),
     (12445, 12446), (12540, 12542), (40981, 40981), (42232, 42237), (42508, 42508),
     (42623, 42623), (42652, 42653), (42775, 42783), (42864, 42864), (42888, 42888),
     (42993, 42996), (43000, 43001), (43471, 43471), (43494, 43494), (43632, 43632),
     (43741, 43741), (43763, 43764), (43868, 43871), (43881, 43881), (65392, 65392),
     (65438, 65439), (67456, 67461), (67463, 67504), (67506, 67514), (68942, 68942),
     (68975, 68975), (69317, 69317), (73177, 73177), (92992, 92995), (93504, 93506),
     (93547, 93548), (94099, 94111), (94176, 94177), (94179, 94179), (94194, 94195),
     (110576, 110579), (110581, 110587), (110589, 110590), (122928, 122989), (123191, 123197),
     (124139, 124139), (124671, 124671), (125259, 125259)]
  alternate := []

/-- Code points of letters without case. -/
def otherLetters : CodePoints where
  solid :=
    [(170, 170), (186, 186), (443, 443), (448, 451), (660, 661), (1488, 1514), (1519, 1522),
     (1568, 1599), (1601, 1610), (1646, 1647), (1649, 1747), (1749, 1749), (1774, 1775),
     (1786, 1788), (1791, 1791), (1808, 1808), (1810, 1839), (1869, 1957), (1969, 1969),
     (1994, 2026), (2048, 2069), (2112, 2136), (2144, 2154), (2160, 2183), (2185, 2191),
     (2208, 2248), (2308, 2361), (2365, 2365), (2384, 2384), (2392, 2401), (2418, 2432),
     (2437, 2444), (2447, 2448), (2451, 2472), (2474, 2480), (2482, 2482), (2486, 2489),
     (2493, 2493), (2510, 2510), (2524, 2525), (2527, 2529), (2544, 2545), (2556, 2556),
     (2565, 2570), (2575, 2576), (2579, 2600), (2602, 2608), (2610, 2611), (2613, 2614),
     (2616, 2617), (2649, 2652), (2654, 2654), (2674, 2676), (2693, 2701), (2703, 2705),
     (2707, 2728), (2730, 2736), (2738, 2739), (2741, 2745), (2749, 2749), (2768, 2768),
     (2784, 2785), (2809, 2809), (2821, 2828), (2831, 2832), (2835, 2856), (2858, 2864),
     (2866, 2867), (2869, 2873), (2877, 2877), (2908, 2909), (2911, 2913), (2929, 2929),
     (2947, 2947), (2949, 2954), (2958, 2960), (2962, 2965), (2969, 2970), (2972, 2972),
     (2974, 2975), (2979, 2980), (2984, 2986), (2990, 3001), (3024, 3024), (3077, 3084),
     (3086, 3088), (3090, 3112), (3114, 3129), (3133, 3133), (3160, 3162), (3164, 3165),
     (3168, 3169), (3200, 3200), (3205, 3212), (3214, 3216), (3218, 3240), (3242, 3251),
     (3253, 3257), (3261, 3261), (3292, 3294), (3296, 3297), (3313, 3314), (3332, 3340),
     (3342, 3344), (3346, 3386), (3389, 3389), (3406, 3406), (3412, 3414), (3423, 3425),
     (3450, 3455), (3461, 3478), (3482, 3505), (3507, 3515), (3517, 3517), (3520, 3526),
     (3585, 3632), (3634, 3635), (3648, 3653), (3713, 3714), (3716, 3716), (3718, 3722),
     (3724, 3747), (3749, 3749), (3751, 3760), (3762, 3763), (3773, 3773), (3776, 3780),
     (3804, 3807), (3840, 3840), (3904, 3911), (3913, 3948), (3976, 3980), (4096, 4138),
     (4159, 4159), (4176, 4181), (4186, 4189), (4193, 4193), (4197, 4198), (4206, 4208),
     (4213, 4225), (4238, 4238), (4352, 4680), (4682, 4685), (4688, 4694), (4696, 4696),
     (4698, 4701), (4704, 4744), (4746, 4749), (4752, 4784), (4786, 4789), (4792, 4798),
     (4800, 4800), (4802, 4805), (4808, 4822), (4824, 4880), (4882, 4885), (4888, 4954),
     (4992, 5007), (5121, 5740), (5743, 5759), (5761, 5786), (5792, 5866), (5873, 5880),
     (5888, 5905), (5919, 5937), (5952, 5969), (5984, 5996), (5998, 6000), (6016, 6067),
     (6108, 6108), (6176, 6210), (6212, 6264), (6272, 6276), (6279, 6312), (6314, 6314),
     (6320, 6389), (6400, 6430), (6480, 6509), (6512, 6516), (6528, 6571), (6576, 6601),
     (6656, 6678), (6688, 6740), (6917, 6963), (6981, 6988), (7043, 7072), (7086, 7087),
     (7098, 7141), (7168, 7203), (7245, 7247), (7258, 7287), (7401, 7404), (7406, 7411),
     (7413, 7414), (7418, 7418), (8501, 8504), (11568, 11623), (11648, 11670), (11680, 11686),
     (11688, 11694), (11696, 11702), (11704, 11710), (11712, 11718), (11720, 11726),
     (11728, 11734), (11736, 11742), (12294, 12294), (12348, 12348), (12353, 12438),
     (12447, 12447), (12449, 12538), (12543, 12543), (12549, 12591), (12593, 12686),
     (12704, 12735), (12784, 12799), (13312, 19903), (19968, 40980), (40982, 42124),
     (42192, 42231), (42240, 42507), (42512, 42527), (42538, 42539), (42606, 42606),
     (42656, 42725), (42895, 42895), (42999, 42999), (43003, 43009), (43011, 43013),
     (43015, 43018), (43020, 43042), (43072, 43123), (43138, 43187), (43250, 43255),
     (43259, 43259), (43261, 43262), (43274, 43301), (43312, 43334), (43360, 43388),
     (43396, 43442), (43488, 43492), (43495, 43503), (43514, 43518), (43520, 43560),
     (43584, 43586), (43588, 43595), (43616, 43631), (43633, 43638), (43642, 43642),
     (43646, 43695), (43697, 43697), (43701, 43702), (43705, 43709), (43712, 43712),
     (43714, 43714), (43739, 43740), (43744, 43754), (43762, 43762), (43777, 43782),
     (43785, 43790), (43793, 43798), (43808, 43814), (43816, 43822), (43968, 44002),
     (44032, 55203), (55216, 55238), (55243, 55291), (63744, 64109), (64112, 64217),
     (64285, 64285), (64287, 64296), (64298, 64310), (64312, 64316), (64318, 64318),
     (64320, 64321), (64323, 64324), (64326, 64433), (64467, 64829), (64848, 64911),
     (64914, 64967), (65008, 65019), (65136, 65140), (65142, 65276), (65382, 65391),
     (65393, 65437), (65440, 65470), (65474, 65479), (65482, 65487), (65490, 65495),
     (65498, 65500), (65536, 65547), (65549, 65574), (65576, 65594), (65596, 65597),
     (65599, 65613), (65616, 65629), (65664, 65786), (66176, 66204), (66208, 66256),
     (66304, 66335), (66349, 66368), (66370, 66377), (66384, 66421), (66432, 66461),
     (66464, 66499), (66504, 66511), (66640, 66717), (66816, 66855), (66864, 66915),
     (67008, 67059), (67072, 67382), (67392, 67413), (67424, 67431), (67584, 67589),
     (67592, 67592), (67594, 67637), (67639, 67640), (67644, 67644), (67647, 67669),
     (67680, 67702), (67712, 67742), (67808, 67826), (67828, 67829), (67840, 67861),
     (67872, 67897), (67904, 67929), (67968, 68023), (68030, 68031), (68096, 68096),
     (68112, 68115), (68117, 68119), (68121, 68149), (68192, 68220), (68224, 68252),
     (68288, 68295), (68297, 68324), (68352, 68405), (68416, 68437), (68448, 68466),
     (68480, 68497), (68608, 68680), (68864, 68899), (68938, 68941), (68943, 68943),
     (69248, 69289), (69296, 69297), (69314, 69316), (69318, 69319), (69376, 69404),
     (69415, 69415), (69424, 69445), (69488, 69505), (69552, 69572), (69600, 69622),
     (69635, 69687), (69745, 69746), (69749, 69749), (69763, 69807), (69840, 69864),
     (69891, 69926), (69956, 69956), (69959, 69959), (69968, 70002), (70006, 70006),
     (70019, 70066), (70081, 70084), (70106, 70106), (70108, 70108), (70144, 70161),
     (70163, 70187), (70207, 70208), (70272, 70278), (70280, 70280), (70282, 70285),
     (70287, 70301), (70303, 70312), (70320, 70366), (70405, 70412), (70415, 70416),
     (70419, 70440), (70442, 70448), (70450, 70451), (70453, 70457), (70461, 70461),
     (70480, 70480), (70493, 70497), (70528, 70537), (70539, 70539), (70542, 70542),
     (70544, 70581), (70583, 70583), (70609, 70609), (70611, 70611), (70656, 70708),
     (70727, 70730), (70751, 70753), (70784, 70831), (70852, 70853), (70855, 70855),
     (71040, 71086), (71128, 71131), (71168, 71215), (71236, 71236), (71296, 71338),
     (71352, 71352), (71424, 71450), (71488, 71494), (71680, 71723), (71935, 71942),
     (71945, 71945), (71948, 71955), (71957, 71958), (71960, 71983), (71999, 71999),
     (72001, 72001), (72096, 72103), (72106, 72144), (72161, 72161), (72163, 72163),
     (72192, 72192), (72203, 72242), (72250, 72250), (72272, 72272), (72284, 72329),
     (72349, 72349), (72368, 72440), (72640, 72672), (72704, 72712), (72714, 72750),
     (72768, 72768), (72818, 72847), (72960, 72966), (72968, 72969), (72971, 73008),
     (73030, 73030), (73056, 73061), (73063, 73064), (73066, 73097), (73112, 73112),
     (73136, 73176), (73178, 73179), (73440, 73458), (73474, 73474), (73476, 73488),
     (73490, 73523), (73648, 73648), (73728, 74649), (74880, 75075), (77712, 77808),
     (77824, 78895), (78913, 78918), (78944, 82938), (82944, 83526), (90368, 90397),
     (92160, 92728), (92736, 92766), (92784, 92862), (92880, 92909), (92928, 92975),
     (93027, 93047), (93053, 93071), (93507, 93546), (93952, 94026), (94032, 94032),
     (94208, 101589), (101631, 101662), (101760, 101874), (110592, 110882), (110898, 110898),
     (110928, 110930), (110933, 110933), (110948, 110951), (110960, 111355), (113664, 113770),
     (113776, 113788), (113792, 113800), (113808, 113817), (122634, 122634), (123136, 123180),
     (123214, 123214), (123536, 123565), (123584, 123627), (124112, 124138), (124368, 124397),
     (124400, 124400), (124608, 124638), (124640, 124642), (124644, 124645), (124647, 124653),
     (124656, 124660), (124670, 124670), (124896, 124902), (124904, 124907), (124909, 124910),
     (124912, 124926), (124928, 125124), (126464, 126467), (126469, 126495), (126497, 126498),
     (126500, 126500), (126503, 126503), (126505, 126514), (126516, 126519), (126521, 126521),
     (126523, 126523), (126530, 126530), (126541, 126543), (126545, 126546), (126548, 126548),
     (126561, 126562), (126564, 126564), (126567, 126570), (126572, 126578), (126580, 126583),
     (126585, 126588), (126590, 126590), (126592, 126601), (126603, 126619), (126625, 126627),
     (126629, 126633), (126635, 126651), (131072, 173791), (173824, 178205), (178208, 183981),
     (183984, 191456), (191472, 192093), (194560, 195101), (196608, 201546), (201552, 210041)]
  alternate :=
    [(126535, 126539), (126551, 126559)]

def nonspacingMarks : CodePoints where
  solid :=
    [(768, 879), (1155, 1159), (1425, 1469), (1471, 1471), (1473, 1474), (1476, 1477),
     (1479, 1479), (1552, 1562), (1611, 1631), (1648, 1648), (1750, 1756), (1759, 1764),
     (1767, 1768), (1770, 1773), (1809, 1809), (1840, 1866), (1958, 1968), (2027, 2035),
     (2045, 2045), (2070, 2073), (2075, 2083), (2085, 2087), (2089, 2093), (2137, 2139),
     (2199, 2207), (2250, 2273), (2275, 2306), (2362, 2362), (2364, 2364), (2369, 2376),
     (2381, 2381), (2385, 2391), (2402, 2403), (2433, 2433), (2492, 2492), (2497, 2500),
     (2509, 2509), (2530, 2531), (2558, 2558), (2561, 2562), (2620, 2620), (2625, 2626),
     (2631, 2632), (2635, 2637), (2641, 2641), (2672, 2673), (2677, 2677), (2689, 2690),
     (2748, 2748), (2753, 2757), (2759, 2760), (2765, 2765), (2786, 2787), (2810, 2815),
     (2817, 2817), (2876, 2876), (2879, 2879), (2881, 2884), (2893, 2893), (2901, 2902),
     (2914, 2915), (2946, 2946), (3008, 3008), (3021, 3021), (3072, 3072), (3076, 3076),
     (3132, 3132), (3134, 3136), (3142, 3144), (3146, 3149), (3157, 3158), (3170, 3171),
     (3201, 3201), (3260, 3260), (3263, 3263), (3270, 3270), (3276, 3277), (3298, 3299),
     (3328, 3329), (3387, 3388), (3393, 3396), (3405, 3405), (3426, 3427), (3457, 3457),
     (3530, 3530), (3538, 3540), (3542, 3542), (3633, 3633), (3636, 3642), (3655, 3662),
     (3761, 3761), (3764, 3772), (3784, 3790), (3864, 3865), (3953, 3966), (3968, 3972),
     (3974, 3975), (3981, 3991), (3993, 4028), (4038, 4038), (4141, 4144), (4146, 4151),
     (4153, 4154), (4157, 4158), (4184, 4185), (4190, 4192), (4209, 4212), (4226, 4226),
     (4229, 4230), (4237, 4237), (4253, 4253), (4957, 4959), (5906, 5908), (5938, 5939),
     (5970, 5971), (6002, 6003), (6068, 6069), (6071, 6077), (6086, 6086), (6089, 6099),
     (6109, 6109), (6155, 6157), (6159, 6159), (6277, 6278), (6313, 6313), (6432, 6434),
     (6439, 6440), (6450, 6450), (6457, 6459), (6679, 6680), (6683, 6683), (6742, 6742),
     (6744, 6750), (6752, 6752), (6754, 6754), (6757, 6764), (6771, 6780), (6783, 6783),
     (6832, 6845), (6847, 6877), (6880, 6891), (6912, 6915), (6964, 6964), (6966, 6970),
     (6972, 6972), (6978, 6978), (7019, 7027), (7040, 7041), (7074, 7077), (7080, 7081),
     (7083, 7085), (7142, 7142), (7144, 7145), (7149, 7149), (7151, 7153), (7212, 7219),
     (7222, 7223), (7376, 7378), (7380, 7392), (7394, 7400), (7405, 7405), (7412, 7412),
     (7416, 7417), (7616, 7679), (8400, 8412), (8417, 8417), (8421, 8432), (11503, 11505),
     (11647, 11647), (11744, 11775), (12330, 12333), (12441, 12442), (42607, 42607),
     (42612, 42621), (42654, 42655), (42736, 42737), (43010, 43010), (43014, 43014),
     (43019, 43019), (43045, 43046), (43052, 43052), (43204, 43205), (43232, 43249),
     (43263, 43263), (43302, 43309), (43335, 43345), (43392, 43394), (43443, 43443),
     (43446, 43449), (43452, 43453), (43493, 43493), (43561, 43566), (43569, 43570),
     (43573, 43574), (43587, 43587), (43596, 43596), (43644, 43644), (43696, 43696),
     (43698, 43700), (43703, 43704), (43710, 43711), (43713, 43713), (43756, 43757),
     (43766, 43766), (44005, 44005), (44008, 44008), (44013, 44013), (64286, 64286),
     (65024, 65039), (65056, 65071), (66045, 66045), (66272, 66272), (66422, 66426),
     (68097, 68099), (68101, 68102), (68108, 68111), (68152, 68154), (68159, 68159),
     (68325, 68326), (68900, 68903), (68969, 68973), (69291, 69292), (69370, 69375),
     (69446, 69456), (69506, 69509), (69633, 69633), (69688, 69702), (69744, 69744),
     (69747, 69748), (69759, 69761), (69811, 69814), (69817, 69818), (69826, 69826),
     (69888, 69890), (69927, 69931), (69933, 69940), (70003, 70003), (70016, 70017),
     (70070, 70078), (70089, 70092), (70095, 70095), (70191, 70193), (70196, 70196),
     (70198, 70199), (70206, 70206), (70209, 70209), (70367, 70367), (70371, 70378),
     (70400, 70401), (70459, 70460), (70464, 70464), (70502, 70508), (70512, 70516),
     (70587, 70592), (70625, 70626), (70712, 70719), (70722, 70724), (70726, 70726),
     (70750, 70750), (70835, 70840), (70842, 70842), (70847, 70848), (70850, 70851),
     (71090, 71093), (71100, 71101), (71103, 71104), (71132, 71133), (71219, 71226),
     (71229, 71229), (71231, 71232), (71339, 71339), (71341, 71341), (71344, 71349),
     (71351, 71351), (71453, 71453), (71455, 71455), (71458, 71461), (71463, 71467),
     (71727, 71735), (71737, 71738), (71995, 71996), (71998, 71998), (72003, 72003),
     (72148, 72151), (72154, 72155), (72160, 72160), (72193, 72202), (72243, 72248),
     (72251, 72254), (72263, 72263), (72273, 72278), (72281, 72283), (72330, 72342),
     (72344, 72345), (72544, 72544), (72546, 72548), (72550, 72550), (72752, 72758),
     (72760, 72765), (72767, 72767), (72850, 72871), (72874, 72880), (72882, 72883),
     (72885, 72886), (73009, 73014), (73018, 73018), (73020, 73021), (73023, 73029),
     (73031, 73031), (73104, 73105), (73109, 73109), (73111, 73111), (73459, 73460),
     (73472, 73473), (73526, 73530), (73536, 73536), (73538, 73538), (73562, 73562),
     (78912, 78912), (78919, 78933), (90398, 90409), (90413, 90415), (92912, 92916),
     (92976, 92982), (94031, 94031), (94095, 94098), (94180, 94180), (113821, 113822),
     (118528, 118573), (118576, 118598), (119143, 119145), (119163, 119170), (119173, 119179),
     (119210, 119213), (119362, 119364), (121344, 121398), (121403, 121452), (121461, 121461),
     (121476, 121476), (121499, 121503), (121505, 121519), (122880, 122886), (122888, 122904),
     (122907, 122913), (122915, 122916), (122918, 122922), (123023, 123023), (123184, 123190),
     (123566, 123566), (123628, 123631), (124140, 124143), (124398, 124399), (124643, 124643),
     (124646, 124646), (124654, 124655), (124661, 124661), (125136, 125142), (125252, 125258),
     (917760, 917999)]
  alternate :=
    [(3893, 3897), (70606, 70610)]

def spacingMarks : CodePoints where
  solid :=
    [(2307, 2307), (2363, 2363), (2366, 2368), (2377, 2380), (2382, 2383), (2434, 2435),
     (2494, 2496), (2503, 2504), (2507, 2508), (2519, 2519), (2563, 2563), (2622, 2624),
     (2691, 2691), (2750, 2752), (2761, 2761), (2763, 2764), (2818, 2819), (2878, 2878),
     (2880, 2880), (2887, 2888), (2891, 2892), (2903, 2903), (3006, 3007), (3009, 3010),
     (3014, 3016), (3018, 3020), (3031, 3031), (3073, 3075), (3137, 3140), (3202, 3203),
     (3262, 3262), (3264, 3268), (3271, 3272), (3274, 3275), (3285, 3286), (3315, 3315),
     (3330, 3331), (3390, 3392), (3398, 3400), (3402, 3404), (3415, 3415), (3458, 3459),
     (3535, 3537), (3544, 3551), (3570, 3571), (3902, 3903), (3967, 3967), (4139, 4140),
     (4145, 4145), (4152, 4152), (4155, 4156), (4182, 4183), (4194, 4196), (4199, 4205),
     (4227, 4228), (4231, 4236), (4239, 4239), (4250, 4252), (5909, 5909), (5940, 5940),
     (6070, 6070), (6078, 6085), (6087, 6088), (6435, 6438), (6441, 6443), (6448, 6449),
     (6451, 6456), (6681, 6682), (6741, 6741), (6743, 6743), (6753, 6753), (6755, 6756),
     (6765, 6770), (6916, 6916), (6965, 6965), (6971, 6971), (6973, 6977), (6979, 6980),
     (7042, 7042), (7073, 7073), (7078, 7079), (7082, 7082), (7143, 7143), (7146, 7148),
     (7150, 7150), (7154, 7155), (7204, 7211), (7220, 7221), (7393, 7393), (7415, 7415),
     (12334, 12335), (43043, 43044), (43047, 43047), (43136, 43137), (43188, 43203),
     (43346, 43347), (43395, 43395), (43444, 43445), (43450, 43451), (43454, 43456),
     (43567, 43568), (43571, 43572), (43597, 43597), (43643, 43643), (43645, 43645),
     (43755, 43755), (43758, 43759), (43765, 43765), (44003, 44004), (44006, 44007),
     (44009, 44010), (44012, 44012), (69632, 69632), (69634, 69634), (69762, 69762),
     (69808, 69810), (69815, 69816), (69932, 69932), (69957, 69958), (70018, 70018),
     (70067, 70069), (70079, 70080), (70094, 70094), (70188, 70190), (70194, 70195),
     (70197, 70197), (70368, 70370), (70402, 70403), (70462, 70463), (70465, 70468),
     (70471, 70472), (70475, 70477), (70487, 70487), (70498, 70499), (70584, 70586),
     (70594, 70594), (70597, 70597), (70599, 70602), (70604, 70605), (70607, 70607),
     (70709, 70711), (70720, 70721), (70725, 70725), (70832, 70834), (70841, 70841),
     (70843, 70846), (70849, 70849), (71087, 71089), (71096, 71099), (71102, 71102),
     (71216, 71218), (71227, 71228), (71230, 71230), (71340, 71340), (71342, 71343),
     (71350, 71350), (71454, 71454), (71456, 71457), (71462, 71462), (71724, 71726),
     (71736, 71736), (71984, 71989), (71991, 71992), (71997, 71997), (72000, 72000),
     (72002, 72002), (72145, 72147), (72156, 72159), (72164, 72164), (72249, 72249),
     (72279, 72280), (72343, 72343), (72545, 72545), (72549, 72549), (72551, 72551),
     (72751, 72751), (72766, 72766), (72873, 72873), (72881, 72881), (72884, 72884),
     (73098, 73102), (73107, 73108), (73110, 73110), (73461, 73462), (73475, 73475),
     (73524, 73525), (73534, 73535), (73537, 73537), (90410, 90412), (94033, 94087),
     (94192, 94193), (119141, 119142), (119149, 119154)]
  alternate := []

def enclosingMarks : CodePoints where
  solid :=
    [(1160, 1161), (6846, 6846), (8413, 8416), (8418, 8420), (42608, 42610)]
  alternate := []

/-- Code points of numerals that look like letters. -/
def letterNumbers : CodePoints where
  solid :=
    [(5870, 5872), (8544, 8578), (8581, 8584), (12295, 12295), (12321, 12329), (12344, 12346),
     (42726, 42735), (65856, 65908), (66369, 66369), (66378, 66378), (66513, 66517),
     (74752, 74862), (94196, 94198)]
  alternate := []

/-- Code points of numerals other than digits. -/
def otherNumbers : CodePoints where
  solid :=
    [(178, 179), (185, 185), (188, 190), (2548, 2553), (2930, 2935), (3056, 3058), (3192, 3198),
     (3416, 3422), (3440, 3448), (3882, 3891), (4969, 4988), (6128, 6137), (6618, 6618),
     (8304, 8304), (8308, 8313), (8320, 8329), (8528, 8543), (8585, 8585), (9312, 9371),
     (9450, 9471), (10102, 10131), (11517, 11517), (12690, 12693), (12832, 12841), (12872, 12879),
     (12881, 12895), (12928, 12937), (12977, 12991), (43056, 43061), (65799, 65843),
     (65909, 65912), (65930, 65931), (66273, 66299), (66336, 66339), (67672, 67679),
     (67705, 67711), (67751, 67759), (67835, 67839), (67862, 67867), (68028, 68029),
     (68032, 68047), (68050, 68095), (68160, 68168), (68221, 68222), (68253, 68255),
     (68331, 68335), (68440, 68447), (68472, 68479), (68521, 68527), (68858, 68863),
     (69216, 69246), (69405, 69414), (69457, 69460), (69573, 69579), (69714, 69733),
     (70113, 70132), (71482, 71483), (71914, 71922), (72794, 72812), (73664, 73684),
     (93019, 93025), (93824, 93846), (119488, 119507), (119520, 119539), (119648, 119672),
     (125127, 125135), (126065, 126123), (126125, 126127), (126129, 126132), (126209, 126253),
     (126255, 126269), (127232, 127244)]
  alternate := []

def connectors : CodePoints where
  solid :=
    [(95, 95), (8255, 8256), (8276, 8276), (65075, 65076), (65101, 65103), (65343, 65343)]
  alternate := []

def dashes : CodePoints where
  solid :=
    [(45, 45), (1418, 1418), (1470, 1470), (5120, 5120), (6150, 6150), (8208, 8213),
     (11799, 11799), (11802, 11802), (11834, 11835), (11840, 11840), (11869, 11869),
     (12316, 12316), (12336, 12336), (12448, 12448), (65073, 65074), (65112, 65112),
     (65123, 65123), (65293, 65293), (68974, 68974), (69293, 69293)]
  alternate := []

def openers : CodePoints where
  solid :=
    [(40, 40), (91, 91), (123, 123), (3898, 3898), (3900, 3900), (5787, 5787), (8218, 8218),
     (8222, 8222), (8261, 8261), (8317, 8317), (8333, 8333), (8968, 8968), (8970, 8970),
     (9001, 9001), (10181, 10181), (10712, 10712), (10714, 10714), (10748, 10748), (11842, 11842),
     (12317, 12317), (64831, 64831), (65047, 65047), (65095, 65095), (65288, 65288),
     (65339, 65339), (65371, 65371), (65375, 65375), (65378, 65378)]
  alternate :=
    [(10088, 10100), (10214, 10222), (10627, 10647), (11810, 11816), (11861, 11867),
     (12296, 12304), (12308, 12314), (65077, 65091), (65113, 65117)]

def closers : CodePoints where
  solid :=
    [(41, 41), (93, 93), (125, 125), (3899, 3899), (3901, 3901), (5788, 5788), (8262, 8262),
     (8318, 8318), (8334, 8334), (8969, 8969), (8971, 8971), (9002, 9002), (10182, 10182),
     (10713, 10713), (10715, 10715), (10749, 10749), (12318, 12319), (64830, 64830),
     (65048, 65048), (65096, 65096), (65289, 65289), (65341, 65341), (65373, 65373),
     (65376, 65376), (65379, 65379)]
  alternate :=
    [(10089, 10101), (10215, 10223), (10628, 10648), (11811, 11817), (11862, 11868),
     (12297, 12305), (12309, 12315), (65078, 65092), (65114, 65118)]

def initialQuotes : CodePoints where
  solid :=
    [(171, 171), (8216, 8216), (8219, 8220), (8223, 8223), (8249, 8249), (11778, 11778),
     (11780, 11780), (11785, 11785), (11788, 11788), (11804, 11804), (11808, 11808)]
  alternate := []

def finalQuotes : CodePoints where
  solid :=
    [(187, 187), (8217, 8217), (8221, 8221), (8250, 8250), (11779, 11779), (11781, 11781),
     (11786, 11786), (11789, 11789), (11805, 11805), (11809, 11809)]
  alternate := []

def otherPunctuation : CodePoints where
  solid :=
    [(33, 35), (37, 39), (42, 42), (44, 44), (46, 47), (58, 59), (63, 64), (92, 92), (161, 161),
     (167, 167), (182, 183), (191, 191), (894, 894), (903, 903), (1370, 1375), (1417, 1417),
     (1472, 1472), (1475, 1475), (1478, 1478), (1523, 1524), (1545, 1546), (1548, 1549),
     (1563, 1563), (1565, 1567), (1642, 1645), (1748, 1748), (1792, 1805), (2039, 2041),
     (2096, 2110), (2142, 2142), (2404, 2405), (2416, 2416), (2557, 2557), (2678, 2678),
     (2800, 2800), (3191, 3191), (3204, 3204), (3572, 3572), (3663, 3663), (3674, 3675),
     (3844, 3858), (3860, 3860), (3973, 3973), (4048, 4052), (4057, 4058), (4170, 4175),
     (4347, 4347), (4960, 4968), (5742, 5742), (5867, 5869), (5941, 5942), (6100, 6102),
     (6104, 6106), (6144, 6149), (6151, 6154), (6468, 6469), (6686, 6687), (6816, 6822),
     (6824, 6829), (6990, 6991), (7002, 7008), (7037, 7039), (7164, 7167), (7227, 7231),
     (7294, 7295), (7360, 7367), (7379, 7379), (8214, 8215), (8224, 8231), (8240, 8248),
     (8251, 8254), (8257, 8259), (8263, 8273), (8275, 8275), (8277, 8286), (11513, 11516),
     (11518, 11519), (11632, 11632), (11776, 11777), (11782, 11784), (11787, 11787),
     (11790, 11798), (11800, 11801), (11803, 11803), (11806, 11807), (11818, 11822),
     (11824, 11833), (11836, 11839), (11841, 11841), (11843, 11855), (11858, 11860),
     (12289, 12291), (12349, 12349), (12539, 12539), (42238, 42239), (42509, 42511),
     (42611, 42611), (42622, 42622), (42738, 42743), (43124, 43127), (43214, 43215),
     (43256, 43258), (43260, 43260), (43310, 43311), (43359, 43359), (43457, 43469),
     (43486, 43487), (43612, 43615), (43742, 43743), (43760, 43761), (44011, 44011),
     (65040, 65046), (65049, 65049), (65072, 65072), (65093, 65094), (65097, 65100),
     (65104, 65106), (65108, 65111), (65119, 65121), (65128, 65128), (65130, 65131),
     (65281, 65283), (65285, 65287), (65290, 65290), (65292, 65292), (65294, 65295),
     (65306, 65307), (65311, 65312), (65340, 65340), (65377, 65377), (65380, 65381),
     (65792, 65794), (66463, 66463), (66512, 66512), (66927, 66927), (67671, 67671),
     (67871, 67871), (67903, 67903), (68176, 68184), (68223, 68223), (68336, 68342),
     (68409, 68415), (68505, 68508), (69328, 69328), (69461, 69465), (69510, 69513),
     (69703, 69709), (69819, 69820), (69822, 69825), (69952, 69955), (70004, 70005),
     (70085, 70088), (70093, 70093), (70107, 70107), (70109, 70111), (70200, 70205),
     (70313, 70313), (70612, 70613), (70615, 70616), (70731, 70735), (70746, 70747),
     (70749, 70749), (70854, 70854), (71105, 71127), (71233, 71235), (71264, 71276),
     (71353, 71353), (71484, 71486), (71739, 71739), (72004, 72006), (72162, 72162),
     (72255, 72262), (72346, 72348), (72350, 72354), (72448, 72457), (72673, 72673),
     (72769, 72773), (72816, 72817), (73463, 73464), (73539, 73551), (73727, 73727),
     (74864, 74868), (77809, 77810), (92782, 92783), (92917, 92917), (92983, 92987),
     (92996, 92996), (93549, 93551), (93847, 93850), (94178, 94178), (113823, 113823),
     (121479, 121483), (124415, 124415), (125278, 125279)]
  alternate := []

def mathSymbols : CodePoints where
  solid :=
    [(43, 43), (60, 62), (124, 124), (126, 126), (172, 172), (177, 177), (215, 215), (247, 247),
     (1014, 1014), (1542, 1544), (8260, 8260), (8274, 8274), (8314, 8316), (8330, 8332),
     (8472, 8472), (8512, 8516), (8523, 8523), (8592, 8596), (8602, 8603), (8608, 8608),
     (8611, 8611), (8614, 8614), (8622, 8622), (8654, 8655), (8658, 8658), (8660, 8660),
     (8692, 8959), (8992, 8993), (9084, 9084), (9115, 9139), (9180, 9185), (9655, 9655),
     (9665, 9665), (9720, 9727), (9839, 9839), (10176, 10180), (10183, 10213), (10224, 10239),
     (10496, 10626), (10649, 10711), (10716, 10747), (10750, 11007), (11056, 11076),
     (11079, 11084), (64297, 64297), (65122, 65122), (65124, 65126), (65291, 65291),
     (65308, 65310), (65372, 65372), (65374, 65374), (65506, 65506), (65513, 65516),
     (69006, 69007), (118512, 118512), (120513, 120513), (120539, 120539), (120571, 120571),
     (120597, 120597), (120629, 120629), (120655, 120655), (120687, 120687), (120713, 120713),
     (120745, 120745), (120771, 120771), (126704, 126705), (129232, 129240)]
  alternate := []

def currencySymbols : CodePoints where
  solid :=
    [(36, 36), (162, 165), (1423, 1423), (1547, 1547), (2046, 2047), (2546, 2547), (2555, 2555),
     (2801, 2801), (3065, 3065), (3647, 3647), (6107, 6107), (8352, 8385), (43064, 43064),
     (65020, 65020), (65129, 65129), (65284, 65284), (65504, 65505), (65509, 65510),
     (73693, 73696), (123647, 123647), (126128, 126128)]
  alternate := []

def modifierSymbols : CodePoints where
  solid :=
    [(94, 94), (96, 96), (168, 168), (175, 175), (180, 180), (184, 184), (706, 709), (722, 735),
     (741, 747), (749, 749), (751, 767), (885, 885), (900, 901), (2184, 2184), (8125, 8125),
     (8127, 8129), (8141, 8143), (8157, 8159), (8173, 8175), (8189, 8190), (12443, 12444),
     (42752, 42774), (42784, 42785), (42889, 42890), (43867, 43867), (43882, 43883),
     (64434, 64450), (65342, 65342), (65344, 65344), (65507, 65507), (127995, 127999)]
  alternate := []

def otherSymbols : CodePoints where
  solid :=
    [(166, 166), (169, 169), (174, 174), (176, 176), (1154, 1154), (1421, 1422), (1550, 1551),
     (1758, 1758), (1769, 1769), (1789, 1790), (2038, 2038), (2554, 2554), (2928, 2928),
     (3059, 3064), (3066, 3066), (3199, 3199), (3407, 3407), (3449, 3449), (3841, 3843),
     (3859, 3859), (3861, 3863), (3866, 3871), (4030, 4037), (4039, 4044), (4046, 4047),
     (4053, 4056), (4254, 4255), (5008, 5017), (5741, 5741), (6464, 6464), (6622, 6655),
     (7009, 7018), (7028, 7036), (8448, 8449), (8451, 8454), (8456, 8457), (8468, 8468),
     (8470, 8471), (8478, 8483), (8494, 8494), (8506, 8507), (8522, 8522), (8524, 8525),
     (8527, 8527), (8586, 8587), (8597, 8601), (8604, 8607), (8609, 8610), (8612, 8613),
     (8615, 8621), (8623, 8653), (8656, 8657), (8659, 8659), (8661, 8691), (8960, 8967),
     (8972, 8991), (8994, 9000), (9003, 9083), (9085, 9114), (9140, 9179), (9186, 9257),
     (9280, 9290), (9372, 9449), (9472, 9654), (9656, 9664), (9666, 9719), (9728, 9838),
     (9840, 10087), (10132, 10175), (10240, 10495), (11008, 11055), (11077, 11078),
     (11085, 11123), (11126, 11263), (11493, 11498), (11856, 11857), (11904, 11929),
     (11931, 12019), (12032, 12245), (12272, 12287), (12292, 12292), (12306, 12307),
     (12320, 12320), (12342, 12343), (12350, 12351), (12688, 12689), (12694, 12703),
     (12736, 12773), (12783, 12783), (12800, 12830), (12842, 12871), (12880, 12880),
     (12896, 12927), (12938, 12976), (12992, 13311), (19904, 19967), (42128, 42182),
     (43048, 43051), (43062, 43063), (43065, 43065), (43639, 43641), (64451, 64466),
     (64832, 64847), (64912, 64913), (64968, 64975), (65021, 65023), (65508, 65508),
     (65512, 65512), (65517, 65518), (65532, 65533), (65847, 65855), (65913, 65929),
     (65932, 65934), (65936, 65948), (65952, 65952), (66000, 66044), (67703, 67704),
     (68296, 68296), (69329, 69336), (71487, 71487), (73685, 73692), (73697, 73713),
     (92988, 92991), (92997, 92997), (113820, 113820), (117760, 117999), (118010, 118012),
     (118016, 118451), (118458, 118480), (118496, 118511), (118608, 118723), (118784, 119029),
     (119040, 119078), (119081, 119140), (119146, 119148), (119171, 119172), (119180, 119209),
     (119214, 119274), (119296, 119361), (119365, 119365), (119552, 119638), (120832, 121343),
     (121399, 121402), (121453, 121460), (121462, 121475), (121477, 121478), (123215, 123215),
     (126124, 126124), (126254, 126254), (126976, 127019), (127024, 127123), (127136, 127150),
     (127153, 127167), (127169, 127183), (127185, 127221), (127245, 127405), (127462, 127490),
     (127504, 127547), (127552, 127560), (127568, 127569), (127584, 127589), (127744, 127994),
     (128000, 128728), (128732, 128748), (128752, 128764), (128768, 128985), (128992, 129003),
     (129008, 129008), (129024, 129035), (129040, 129095), (129104, 129113), (129120, 129159),
     (129168, 129197), (129200, 129211), (129216, 129217), (129280, 129623), (129632, 129645),
     (129648, 129660), (129664, 129674), (129678, 129734), (129736, 129736), (129741, 129756),
     (129759, 129770), (129775, 129784), (129792, 129938), (129940, 130031), (130042, 130042)]
  alternate :=
    [(3892, 3896), (8485, 8489)]

def spaceSeparators : CodePoints where
  solid :=
    [(32, 32), (160, 160), (5760, 5760), (8192, 8202), (8239, 8239), (8287, 8287), (12288, 12288)]
  alternate := []

def lineSeparators : CodePoints where
  solid :=
    [(8232, 8232)]
  alternate := []

def paragraphSeparators : CodePoints where
  solid :=
    [(8233, 8233)]
  alternate := []

def controls : CodePoints where
  solid :=
    [(0, 31), (127, 159)]
  alternate := []

def formats : CodePoints where
  solid :=
    [(173, 173), (1536, 1541), (1564, 1564), (1757, 1757), (1807, 1807), (2192, 2193),
     (2274, 2274), (6158, 6158), (8203, 8207), (8234, 8238), (8288, 8292), (8294, 8303),
     (65279, 65279), (65529, 65531), (69821, 69821), (69837, 69837), (78896, 78911),
     (113824, 113827), (119155, 119162), (917505, 917505), (917536, 917631)]
  alternate := []

def privateUse : CodePoints where
  solid :=
    [(57344, 63743), (983040, 1048573), (1048576, 1114109)]
  alternate := []

/-- The general categories that have a table, by short and long name; decimal digits have a table
of their own. -/
def categories : List (List String × CodePoints) :=
  [(["lu", "uppercaseletter"], capitalLetters), (["ll", "lowercaseletter"], smallLetters),
   (["lt", "titlecaseletter"], titleLetters), (["lm", "modifierletter"], modifierLetters),
   (["lo", "otherletter"], otherLetters), (["mn", "nonspacingmark"], nonspacingMarks),
   (["mc", "spacingmark"], spacingMarks), (["me", "enclosingmark"], enclosingMarks),
   (["nl", "letternumber"], letterNumbers), (["no", "othernumber"], otherNumbers),
   (["pc", "connectorpunctuation"], connectors), (["pd", "dashpunctuation"], dashes),
   (["ps", "openpunctuation"], openers), (["pe", "closepunctuation"], closers),
   (["pi", "initialpunctuation"], initialQuotes), (["pf", "finalpunctuation"], finalQuotes),
   (["po", "otherpunctuation"], otherPunctuation), (["sm", "mathsymbol"], mathSymbols),
   (["sc", "currencysymbol"], currencySymbols), (["sk", "modifiersymbol"], modifierSymbols),
   (["so", "othersymbol"], otherSymbols), (["zs", "spaceseparator"], spaceSeparators),
   (["zl", "lineseparator"], lineSeparators), (["zp", "paragraphseparator"], paragraphSeparators),
   (["cc", "control", "cntrl"], controls), (["cf", "format"], formats),
   (["co", "privateuse"], privateUse), (["nd", "decimalnumber", "digit"], ⟨digitRanges, []⟩)]

/-- Categories that join others. -/
def categoryGroups : List (List String × List String) :=
  [(["l", "letter"], ["lu", "ll", "lt", "lm", "lo"]),
   (["lc", "casedletter"], ["lu", "ll", "lt"]),
   (["m", "mark", "combiningmark"], ["mn", "mc", "me"]),
   (["n", "number"], ["nd", "nl", "no"]),
   (["p", "punct", "punctuation"], ["pc", "pd", "ps", "pe", "pi", "pf", "po"]),
   (["s", "symbol"], ["sm", "sc", "sk", "so"]),
   (["z", "separator"], ["zs", "zl", "zp"])]

end WireShapes.Text
