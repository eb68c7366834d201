import RelationalSearch.Text.Split
import RelationalSearch.Text.Utf8

/-!
# Query strings

A query string is a sequence of fields between ampersands; empty fields are
skipped. A field is split at its first equals sign, a missing value being empty.
In names and values a plus stands for a space and a percent sign with two
hexadecimal digits for an octet; the octets of each run of ASCII characters are
read as UTF-8, with replacements. Characters beyond ASCII stand for themselves.
-/

namespace RelationalSearch.QueryString

/-- A field's name and value. -/
def splitField (field : List Char) : List Char × List Char :=
  (field.takeWhile (· != '='), (field.dropWhile (· != '=')).drop 1)

/-- The value of a hexadecimal digit. -/
def hexValue? (c : Char) : Option Nat :=
  if c.isDigit then some (c.toNat - 48)
  else if 'a' ≤ c && c ≤ 'f' then some (c.toNat - 87)
  else if 'A' ≤ c && c ≤ 'F' then some (c.toNat - 55)
  else none

/-- The octets of an ASCII text, a percent sign with two hexadecimal digits being
one octet. -/
def percentOctets : List Char → List UInt8
  | [] => []
  | '%' :: a :: b :: rest =>
    match hexValue? a, hexValue? b with
    | some x, some y => UInt8.ofNat (16 * x + y) :: percentOctets rest
    | _, _ => '%'.toUInt8 :: percentOctets (a :: b :: rest)
  | c :: rest => c.toUInt8 :: percentOctets rest

/-- Decodes percent signs in every run of ASCII characters; `run` is the current
run, last character first. -/
def decodeRuns (run : List Char) : List Char → List Char
  | [] => Text.decodeWithReplacement (percentOctets run.reverse)
  | c :: rest =>
    if c.toNat < 128 then decodeRuns (c :: run) rest
    else Text.decodeWithReplacement (percentOctets run.reverse) ++ c :: decodeRuns [] rest

/-- A name or a value as it is meant. -/
def decodePart (part : List Char) : String :=
  String.ofList (decodeRuns [] (part.map fun c => if c == '+' then ' ' else c))

/-- The names and values of a query string, in order. -/
def fields (text : String) : List (String × String) :=
  ((Text.splitAtEach '&' text.toList).filter (!·.isEmpty)).map fun field =>
    let parts := splitField field
    (decodePart parts.1, decodePart parts.2)

/-- The names and values of the raw query string of a connection: it arrives as
octets, each of which is taken as one character before the fields are read. -/
def rawFields (text : String) : List (String × String) :=
  fields (String.ofList (Text.octetsAsChars (Text.utf8Octets text)))

end RelationalSearch.QueryString
