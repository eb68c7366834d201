/-!
# Reading UTF-8 with replacements

Octets are read by a machine that remembers how many continuation octets the
current character still needs and which range the next one must lie in. When an
octet does not fit, everything read of the broken character becomes one
replacement character and the octet starts afresh; so does the end of the text.
-/

namespace RelationalSearch.Text

/-- The character that stands for what could not be read. -/
def replacementChar : Char := Char.ofNat 0xFFFD

/-- A character that has begun: how many octets are missing, the range of the
next one, and the bits read so far. -/
structure Begun where
  missing : Nat
  low : Nat
  high : Nat
  bits : Nat
  deriving Repr

/-- What an octet does at the start of a character: it is a character, it begins
one, or it is out of place. -/
def beginChar (b : Nat) : List Char × Option Begun :=
  if b < 0x80 then ([Char.ofNat b], none)
  else if 0xC2 ≤ b && b ≤ 0xDF then ([], some ⟨1, 0x80, 0xBF, b % 32⟩)
  else if b == 0xE0 then ([], some ⟨2, 0xA0, 0xBF, b % 16⟩)
  else if b == 0xED then ([], some ⟨2, 0x80, 0x9F, b % 16⟩)
  else if 0xE1 ≤ b && b ≤ 0xEF then ([], some ⟨2, 0x80, 0xBF, b % 16⟩)
  else if b == 0xF0 then ([], some ⟨3, 0x90, 0xBF, b % 8⟩)
  else if b == 0xF4 then ([], some ⟨3, 0x80, 0x8F, b % 8⟩)
  else if 0xF1 ≤ b && b ≤ 0xF3 then ([], some ⟨3, 0x80, 0xBF, b % 8⟩)
  else ([replacementChar], none)

/-- One octet: the characters that it completes, and the character it leaves
begun. -/
def readOctet (begun : Option Begun) (b : Nat) : List Char × Option Begun :=
  match begun with
  | none => beginChar b
  | some p =>
    if p.low ≤ b && b ≤ p.high then
      let bits := p.bits * 64 + b % 64
      if p.missing == 1 then ([Char.ofNat bits], none)
      else ([], some ⟨p.missing - 1, 0x80, 0xBF, bits⟩)
    else
      let next := beginChar b
      (replacementChar :: next.1, next.2)

/-- Reads octets after a character that may have begun. -/
def decodeFrom (begun : Option Begun) : List UInt8 → List Char
  | [] => if begun.isSome then [replacementChar] else []
  | b :: rest =>
    let step := readOctet begun b.toNat
    step.1 ++ decodeFrom step.2 rest

/-- The text of octets, with replacements for what is not UTF-8. -/
def decodeWithReplacement (octets : List UInt8) : List Char := decodeFrom none octets

/-- The text of octets, if they are UTF-8 throughout. -/
def decodeUtf8? (octets : List UInt8) : Option String :=
  String.fromUTF8? ⟨octets.toArray⟩

/-- Octets as characters of the same numbers. -/
def octetsAsChars (octets : List UInt8) : List Char := octets.map fun b => Char.ofNat b.toNat

/-- The UTF-8 octets of a text. -/
def utf8Octets (s : String) : List UInt8 := s.toUTF8.toList

end RelationalSearch.Text
