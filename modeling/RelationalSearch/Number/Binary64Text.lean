import RelationalSearch.Number.Binary64

/-!
# The text of a floating-point number

A number is written with its shortest digits: positionally while the point
stands at most sixteen places after the first digit and at most three zeros
follow it, and with a power of ten otherwise. A positional number always has a
digit after the point.
-/

namespace RelationalSearch.Binary64

/-- How far right of the first digit, and how far left, the point may stand in
positional writing. -/
def positionalPlaces : Int × Int := (-3, 16)

/-- The digits of a natural number. -/
def digitChars (n : Nat) : List Char := Nat.toDigits 10 n

/-- The text of a decimal without its sign. -/
def decimalText (d : Decimal) : String :=
  let digits := digitChars d.digits
  let point : Int := if d.digits == 0 then 1 else d.exponent + digits.length
  if positionalPlaces.1 ≤ point && point ≤ positionalPlaces.2 then
    if point ≤ 0 then
      "0." ++ String.ofList (List.replicate (-point).toNat '0' ++ digits)
    else
      let whole := digits.take point.toNat
      let missing := List.replicate (point.toNat - digits.length) '0'
      let rest := digits.drop point.toNat
      String.ofList (whole ++ missing) ++ "." ++ (if rest.isEmpty then "0" else String.ofList rest)
  else
    let power := point - 1
    let size := digitChars power.natAbs
    let padded := if size.length < 2 then '0' :: size else size
    let rest := digits.drop 1
    String.ofList (digits.take 1) ++ (if rest.isEmpty then "" else "." ++ String.ofList rest) ++ "e"
      ++ (if power < 0 then "-" else "+") ++ String.ofList padded

/-- The text of a number. -/
def text : Binary64 → String
  | .finite negative m q => (if negative then "-" else "") ++ decimalText (shortest m q)
  | .infinite negative => if negative then "-inf" else "inf"
  | .nan => "nan"

/-! ### Reading -/

/-- Splits the digits off the front of a text. -/
def spanDigits (cs : List Char) : List Char × List Char :=
  (cs.takeWhile Char.isDigit, cs.dropWhile Char.isDigit)

/-- The whole number written by ASCII digits. -/
def ofDigits (cs : List Char) : Nat :=
  cs.foldl (fun n c => 10 * n + (c.toNat - 48)) 0

/-- Reads an optional power of ten that must end the text. -/
def readPower? : List Char → Option Int
  | [] => some 0
  | c :: rest =>
    if c == 'e' || c == 'E' then
      let (negative, digits) := match rest with
        | '-' :: r => (true, r)
        | '+' :: r => (false, r)
        | r => (false, r)
      if digits.isEmpty || !digits.all Char.isDigit then none
      else some (if negative then -(ofDigits digits : Int) else ofDigits digits)
    else none

/-- Reads an unsigned decimal: digits, perhaps a point and digits, perhaps a
power of ten. -/
def readDecimal? (cs : List Char) : Option Decimal :=
  let (whole, rest) := spanDigits cs
  let (places, rest) := match rest with
    | '.' :: r => spanDigits r
    | r => ([], r)
  if whole.isEmpty && places.isEmpty then none
  else (readPower? rest).map fun power => ⟨ofDigits (whole ++ places), power - places.length⟩

/-- Reads the text of a number. -/
def read? (s : String) : Option Binary64 :=
  let (negative, cs) := match s.toList with
    | '-' :: r => (true, r)
    | '+' :: r => (false, r)
    | r => (false, r)
  if cs == "inf".toList then some (.infinite negative)
  else if cs == "nan".toList then some .nan
  else (readDecimal? cs).map (ofDecimal negative)

end RelationalSearch.Binary64
