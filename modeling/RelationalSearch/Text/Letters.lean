import RelationalSearch.Text.Alphanumeric
import RelationalSearch.Text.Digits
import RelationalSearch.Text.LetterCase

/-!
# Letters and digit signs

Letters are the letters and numerals that are no mere numerals; a few numerals
are letters all the same, such as the number characters of Chinese. Digit signs
are the decimal digits together with raised, lowered and circled ones.
-/

namespace RelationalSearch.Text

/-- Numerals that are letters. -/
def letterNumeralIntervals : List (Nat × Nat) :=
  [(13317, 13317), (13443, 13443), (14378, 14378), (15181, 15181), (19968, 19968),
   (19971, 19971), (19975, 19975), (19977, 19977), (20061, 20061), (20108, 20108),
   (20116, 20116), (20118, 20118), (20159, 20160), (20191, 20191), (20200, 20200),
   (20237, 20237), (20336, 20336), (20740, 20740), (20806, 20806), (20841, 20841),
   (20843, 20843), (20845, 20845), (21313, 21313), (21315, 21317), (21324, 21324),
   (21441, 21444), (22235, 22235), (22769, 22769), (22777, 22777), (24186, 24186),
   (24318, 24319), (24332, 24334), (24336, 24336), (25342, 25342), (25420, 25420),
   (26578, 26578), (28422, 28422), (29590, 29590), (30334, 30334), (32902, 32902),
   (33836, 33836), (36014, 36014), (36019, 36019), (36144, 36144), (38433, 38433),
   (38470, 38470), (38476, 38476), (38520, 38520), (38646, 38646), (63851, 63851),
   (63859, 63859), (63864, 63864), (63922, 63922), (63953, 63953), (63955, 63955),
   (63997, 63997), (131073, 131073), (131172, 131172), (131298, 131298), (131361, 131361),
   (133418, 133418), (133507, 133507), (133516, 133516), (133532, 133532), (133866, 133866),
   (133885, 133885), (133913, 133913), (140176, 140176), (141720, 141720), (146203, 146203),
   (156269, 156269), (194704, 194704)]

/-- Digits in special forms. -/
def digitSignIntervals : List (Nat × Nat) :=
  [(178, 179), (185, 185), (4969, 4977), (6618, 6618), (8304, 8304), (8308, 8313), (8320, 8329),
   (9312, 9320), (9332, 9340), (9352, 9360), (9450, 9450), (9461, 9469), (9471, 9471),
   (10102, 10110), (10112, 10120), (10122, 10130), (68160, 68163), (69216, 69224),
   (69714, 69722), (127232, 127242)]

/-- Whether a character is a letter. -/
def isLetterChar (c : Char) : Bool :=
  isAlphanumericChar c && (!isNumeralChar c || inIntervals letterNumeralIntervals c.toNat)

/-- Whether a character is a digit in some form. -/
def isDigitSign (c : Char) : Bool := isDigitChar c || inIntervals digitSignIntervals c.toNat

end RelationalSearch.Text
