import CustomElement.Text.Ranges

/-!
# Word characters, letters, numerals and decimal digits beyond ASCII

Word characters are the alphabetic characters, marks, decimal digits, connector punctuation and the
two joiners. Alphanumeric characters are the alphabetic ones and all numerals.
-/

namespace CustomElement.Text

/-- Non-ASCII characters that are either word characters or characters of identifiers, but not both. -/
def wordExceptions : Ranges := [
  (183, 183), (903, 903), (1160, 1161), (4969, 4977), (6618, 6618), (6846, 6846), (8413, 8416),
  (8418, 8420), (8472, 8472), (8494, 8494), (9398, 9449), (11823, 11823), (12443, 12444),
  (12539, 12539), (42608, 42610), (65381, 65381), (127280, 127305), (127312, 127337),
  (127344, 127369)]

/-- Non-ASCII characters that are either alphanumeric or word characters, but not both: numerals that are
no decimal digits, and marks, connectors and joiners that are not alphabetic. -/
def alphanumericExceptions : Ranges := [
  (178, 179), (185, 185), (188, 190), (768, 836), (838, 866), (1155, 1161), (1425, 1455),
  (1624, 1624), (1759, 1760), (1770, 1772), (1856, 1866), (2027, 2035), (2045, 2045), (2072, 2073),
  (2093, 2093), (2137, 2139), (2200, 2207), (2250, 2259), (2272, 2273), (2282, 2287), (2364, 2364),
  (2381, 2381), (2385, 2388), (2492, 2492), (2509, 2509), (2548, 2553), (2558, 2558), (2620, 2620),
  (2637, 2637), (2748, 2748), (2765, 2765), (2813, 2815), (2876, 2876), (2893, 2893), (2901, 2901),
  (2930, 2935), (3021, 3021), (3056, 3058), (3132, 3132), (3149, 3149), (3192, 3198), (3260, 3260),
  (3277, 3277), (3387, 3388), (3405, 3405), (3416, 3422), (3440, 3448), (3530, 3530), (3655, 3660),
  (3662, 3662), (3770, 3770), (3784, 3788), (3790, 3790), (3864, 3865), (3882, 3891), (3893, 3893),
  (3895, 3895), (3897, 3897), (3902, 3903), (3972, 3972), (3974, 3975), (4038, 4038), (4151, 4151),
  (4153, 4154), (4957, 4959), (4969, 4988), (5908, 5909), (5940, 5940), (6068, 6069), (6089, 6099),
  (6109, 6109), (6128, 6137), (6155, 6157), (6159, 6159), (6457, 6459), (6618, 6618), (6752, 6752),
  (6773, 6780), (6783, 6783), (6832, 6846), (6849, 6859), (6863, 6877), (6880, 6891), (6964, 6964),
  (6980, 6980), (7019, 7027), (7082, 7083), (7142, 7142), (7154, 7155), (7223, 7223), (7376, 7378),
  (7380, 7400), (7405, 7405), (7412, 7412), (7415, 7417), (7616, 7634), (7669, 7679), (8204, 8205),
  (8255, 8256), (8276, 8276), (8304, 8304), (8308, 8313), (8320, 8329), (8400, 8432), (8528, 8543),
  (8585, 8585), (9312, 9371), (9450, 9471), (10102, 10131), (11503, 11505), (11517, 11517),
  (11647, 11647), (12330, 12335), (12441, 12442), (12690, 12693), (12832, 12841), (12872, 12879),
  (12881, 12895), (12928, 12937), (12977, 12991), (42607, 42610), (42620, 42621), (42736, 42737),
  (43014, 43014), (43052, 43052), (43056, 43061), (43204, 43204), (43232, 43249), (43307, 43309),
  (43347, 43347), (43443, 43443), (43456, 43456), (43711, 43711), (43713, 43713), (43766, 43766),
  (44012, 44013), (65024, 65039), (65056, 65071), (65075, 65076), (65101, 65103), (65343, 65343),
  (65799, 65843), (65909, 65912), (65930, 65931), (66045, 66045), (66272, 66299), (66336, 66339),
  (67672, 67679), (67705, 67711), (67751, 67759), (67835, 67839), (67862, 67867), (68028, 68029),
  (68032, 68047), (68050, 68095), (68152, 68154), (68159, 68168), (68221, 68222), (68253, 68255),
  (68325, 68326), (68331, 68335), (68440, 68447), (68472, 68479), (68521, 68527), (68858, 68863),
  (68970, 68973), (69216, 69246), (69373, 69375), (69405, 69414), (69446, 69460), (69506, 69509),
  (69573, 69579), (69702, 69702), (69714, 69733), (69744, 69744), (69759, 69759), (69817, 69818),
  (69939, 69940), (70003, 70003), (70080, 70080), (70089, 70092), (70113, 70132), (70197, 70198),
  (70377, 70378), (70459, 70460), (70477, 70477), (70502, 70508), (70512, 70516), (70606, 70608),
  (70610, 70610), (70625, 70626), (70722, 70722), (70726, 70726), (70750, 70750), (70850, 70851),
  (71103, 71104), (71231, 71231), (71350, 71351), (71467, 71467), (71482, 71483), (71737, 71738),
  (71914, 71922), (71997, 71998), (72003, 72003), (72160, 72160), (72243, 72244), (72263, 72263),
  (72344, 72345), (72767, 72767), (72794, 72812), (73026, 73026), (73028, 73029), (73111, 73111),
  (73537, 73538), (73562, 73562), (73664, 73684), (78912, 78912), (78919, 78933), (90415, 90415),
  (92912, 92916), (92976, 92982), (93019, 93025), (93824, 93846), (94180, 94180), (113821, 113821),
  (118528, 118573), (118576, 118598), (119141, 119145), (119149, 119154), (119163, 119170),
  (119173, 119179), (119210, 119213), (119362, 119364), (119488, 119507), (119520, 119539),
  (119648, 119672), (121344, 121398), (121403, 121452), (121461, 121461), (121476, 121476),
  (121499, 121503), (121505, 121519), (123184, 123190), (123566, 123566), (123628, 123631),
  (124140, 124143), (124398, 124399), (125127, 125142), (125252, 125254), (125256, 125258),
  (126065, 126123), (126125, 126127), (126129, 126132), (126209, 126253), (126255, 126269),
  (127232, 127244), (917760, 917999)]

def decimalDigitRanges : Ranges := [
  (1632, 1641), (1776, 1785), (1984, 1993), (2406, 2415), (2534, 2543), (2662, 2671), (2790, 2799),
  (2918, 2927), (3046, 3055), (3174, 3183), (3302, 3311), (3430, 3439), (3558, 3567), (3664, 3673),
  (3792, 3801), (3872, 3881), (4160, 4169), (4240, 4249), (6112, 6121), (6160, 6169), (6470, 6479),
  (6608, 6617), (6784, 6793), (6800, 6809), (6992, 7001), (7088, 7097), (7232, 7241), (7248, 7257),
  (42528, 42537), (43216, 43225), (43264, 43273), (43472, 43481), (43504, 43513), (43600, 43609),
  (44016, 44025), (65296, 65305), (66720, 66729), (68912, 68921), (68928, 68937), (69734, 69743),
  (69872, 69881), (69942, 69951), (70096, 70105), (70384, 70393), (70736, 70745), (70864, 70873),
  (71248, 71257), (71360, 71369), (71376, 71395), (71472, 71481), (71904, 71913), (72016, 72025),
  (72688, 72697), (72784, 72793), (73040, 73049), (73120, 73129), (73184, 73193), (73552, 73561),
  (90416, 90425), (92768, 92777), (92864, 92873), (93008, 93017), (93552, 93561), (118000, 118009),
  (120782, 120831), (123200, 123209), (123632, 123641), (124144, 124153), (124401, 124410),
  (125264, 125273), (130032, 130041)]

end CustomElement.Text
