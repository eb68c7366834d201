import RelationalSearch.Text.Printable

/-!
# Quoted texts and octets

A text is quoted with single quotes, or with double quotes when it holds a
single quote and no double one. Within the quotes a backslash stands before the
quote and before a backslash; tab, line feed and carriage return have letters;
any other character that does not print is written by its number in two, four or
eight hexadecimal digits.
-/

namespace RelationalSearch.Text

/-- The single quote. -/
def singleQuote : Char := Char.ofNat 39

/-- The double quote. -/
def doubleQuote : Char := Char.ofNat 34

/-- A number in hexadecimal, filled up with zeros to a width. -/
def hexDigits (width n : Nat) : List Char :=
  let digits := Nat.toDigits 16 n
  List.replicate (width - digits.length) '0' ++ digits

/-- The quote that a text is written with. -/
def quoteFor (cs : List Char) : Char :=
  if cs.contains singleQuote && !cs.contains doubleQuote then doubleQuote else singleQuote

/-- One character inside quotes. -/
def escapeChar (quote c : Char) : List Char :=
  if c == quote || c == '\\' then ['\\', c]
  else if c == '\t' then ['\\', 't']
  else if c == '\n' then ['\\', 'n']
  else if c == '\r' then ['\\', 'r']
  else if isPrintableChar c then [c]
  else if c.toNat < 0x100 then '\\' :: 'x' :: hexDigits 2 c.toNat
  else if c.toNat < 0x10000 then '\\' :: 'u' :: hexDigits 4 c.toNat
  else '\\' :: 'U' :: hexDigits 8 c.toNat

/-- A text in quotes. -/
def quoted (s : String) : String :=
  let quote := quoteFor s.toList
  String.ofList (quote :: s.toList.flatMap (escapeChar quote) ++ [quote])

/-- One octet inside quotes: only the printing characters of ASCII stand for
themselves. -/
def escapeOctet (quote : Char) (n : UInt8) : List Char :=
  if 32 ≤ n && n < 127 then escapeChar quote (Char.ofNat n.toNat)
  else if n == 9 || n == 10 || n == 13 then escapeChar quote (Char.ofNat n.toNat)
  else '\\' :: 'x' :: hexDigits 2 n.toNat

/-- Octets in quotes, marked by a leading `b`. -/
def quotedOctets (octets : List UInt8) : String :=
  let quote := quoteFor (octets.map fun n => Char.ofNat n.toNat)
  String.ofList ('b' :: quote :: octets.flatMap (escapeOctet quote) ++ [quote])

/-- A text as a literal of a query: single quotes, doubled inside. -/
def sqlLiteral (s : String) : String :=
  String.ofList (singleQuote :: s.toList.flatMap (fun c => if c == singleQuote then [c, c] else [c])
    ++ [singleQuote])

end RelationalSearch.Text
