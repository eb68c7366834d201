import RelationalSearch.Number.Binary64Text
import RelationalSearch.Text.Quoted

/-!
# Exchange texts

Structured data written as text: no value, truth values, numbers, texts in double
quotes, lists in brackets, and records in braces whose members keep their order.
Settings are read from such texts. The reader also takes the names of the
infinities and of no number; of a repeated member the place is the first one's
and the value the last one's.

Reading spends one unit of fuel per value, and a text of `n` characters holds at
most `n` values.
-/

namespace RelationalSearch

/-- Structured data. -/
inductive Exchange where
  | null
  | bool (b : Bool)
  | int (n : Int)
  | float (x : Binary64)
  | str (s : String)
  | list (items : List Exchange)
  | record (members : List (String × Exchange))
  deriving Repr, Inhabited

namespace Exchange

/-! ### Access -/

/-- The value of a member. -/
def member? (x : Exchange) (name : String) : Option Exchange :=
  match x with
  | record members => members.lookup name
  | _ => none

/-- Stores a member: a known one keeps its place. -/
def putMember : List (String × Exchange) → String → Exchange → List (String × Exchange)
  | [], name, value => [(name, value)]
  | m :: rest, name, value =>
    if m.1 == name then (name, value) :: rest else m :: putMember rest name value

/-! ### Reading -/

/-- White space between the parts of an exchange text. -/
def isGap (c : Char) : Bool := c == ' ' || c == '\t' || c == '\n' || c == '\r'

/-- The text without white space in front. -/
def skipGap (cs : List Char) : List Char := cs.dropWhile isGap

/-- The value of a hexadecimal digit. -/
def hexDigit? (c : Char) : Option Nat :=
  if c.isDigit then some (c.toNat - 48)
  else if 'a' ≤ c && c ≤ 'f' then some (c.toNat - 87)
  else if 'A' ≤ c && c ≤ 'F' then some (c.toNat - 55)
  else none

/-- The number written by four hexadecimal digits. -/
def hexFour? (a b c d : Char) : Option Nat := do
  return (((← hexDigit? a) * 16 + (← hexDigit? b)) * 16 + (← hexDigit? c)) * 16 + (← hexDigit? d)

/-- A character from the two halves of its number, when it is beyond the first
plane. -/
def joinHalves (high low : Nat) : Char :=
  Char.ofNat (0x10000 + (high - 0xD800) * 0x400 + (low - 0xDC00))

/-- Reads a text up to its closing quote. -/
def readText? : List Char → Option (List Char × List Char)
  | [] => none
  | '"' :: rest => some ([], rest)
  | '\\' :: 'u' :: a :: b :: c :: d :: rest =>
    match hexFour? a b c d with
    | none => none
    | some high =>
      if 0xD800 ≤ high && high < 0xDC00 then
        match rest with
        | '\\' :: 'u' :: e :: f :: g :: h :: rest' =>
          match hexFour? e f g h with
          | some low =>
            if 0xDC00 ≤ low && low < 0xE000 then
              (readText? rest').map fun r => (joinHalves high low :: r.1, r.2)
            else none
          | none => none
        | _ => none
      else (readText? rest).map fun r => (Char.ofNat high :: r.1, r.2)
  | '\\' :: c :: rest =>
    let meant : Option Char :=
      if c == '"' || c == '\\' || c == '/' then some c
      else if c == 'b' then some (Char.ofNat 8)
      else if c == 'f' then some (Char.ofNat 12)
      else if c == 'n' then some '\n'
      else if c == 'r' then some '\r'
      else if c == 't' then some '\t'
      else none
    match meant with
    | some m => (readText? rest).map fun r => (m :: r.1, r.2)
    | none => none
  | c :: rest => if c.toNat < 32 then none else (readText? rest).map fun r => (c :: r.1, r.2)

/-- The text after a word, if it begins with it. -/
def afterWord? (word : String) (cs : List Char) : Option (List Char) :=
  let size := word.length
  if cs.take size == word.toList then some (cs.drop size) else none

/-- The digits after a point, if there is a point with digits after it. -/
def splitPlaces (cs : List Char) : List Char × List Char :=
  match cs with
  | '.' :: rest =>
    let places := Binary64.spanDigits rest
    if places.1.isEmpty then ([], cs) else places
  | _ => ([], cs)

/-- The power of ten at the front of a text, if there is one. -/
def splitPower (cs : List Char) : Option Int × List Char :=
  match cs with
  | e :: rest =>
    if e == 'e' || e == 'E' then
      let (negative, digits) := match rest with
        | '-' :: r => (true, r)
        | '+' :: r => (false, r)
        | r => (false, r)
      let parts := Binary64.spanDigits digits
      if parts.1.isEmpty then (none, cs)
      else
        let n : Int := Binary64.ofDigits parts.1
        (some (if negative then -n else n), parts.2)
    else (none, cs)
  | [] => (none, [])

/-- Reads a number. -/
def readNumber? (cs : List Char) : Option (Exchange × List Char) :=
  let (negative, unsigned) := match cs with
    | '-' :: rest => (true, rest)
    | rest => (false, rest)
  let whole := match unsigned with
    | '0' :: rest => (['0'], rest)
    | rest => Binary64.spanDigits rest
  if whole.1.isEmpty then none
  else
    let places := splitPlaces whole.2
    let power := splitPower places.2
    if places.1.isEmpty && power.1.isNone then
      let n : Int := Binary64.ofDigits whole.1
      some (int (if negative then -n else n), power.2)
    else
      let digits := Binary64.ofDigits (whole.1 ++ places.1)
      some (float (Binary64.ofDecimal negative ⟨digits, power.1.getD 0 - places.1.length⟩), power.2)

/-- Reads a constant. -/
def readConstant? (cs : List Char) : Option (Exchange × List Char) :=
  [("null", null), ("true", bool true), ("false", bool false), ("NaN", float .nan),
    ("Infinity", float (.infinite false)), ("-Infinity", float (.infinite true))].findSome?
      fun c => (afterWord? c.1 cs).map fun rest => (c.2, rest)

mutual

/-- Reads a value. -/
def readValue? : (fuel : Nat) → List Char → Option (Exchange × List Char)
  | 0, _ => none
  | fuel + 1, cs =>
    match cs with
    | '"' :: rest => (readText? rest).map fun r => (str (String.ofList r.1), r.2)
    | '[' :: rest =>
      match skipGap rest with
      | ']' :: rest' => some (list [], rest')
      | rest' => (readItems? fuel rest').map fun r => (list r.1, r.2)
    | '\x7b' :: rest =>
      match skipGap rest with
      | '\x7d' :: rest' => some (record [], rest')
      | rest' => (readMembers? fuel [] rest').map fun r => (record r.1, r.2)
    | cs => readConstant? cs <|> readNumber? cs

/-- Reads the items of a list up to its closing bracket. -/
def readItems? : (fuel : Nat) → List Char → Option (List Exchange × List Char)
  | 0, _ => none
  | fuel + 1, cs =>
    match readValue? fuel cs with
    | none => none
    | some (item, rest) =>
      match skipGap rest with
      | ']' :: rest' => some ([item], rest')
      | ',' :: rest' => (readItems? fuel (skipGap rest')).map fun r => (item :: r.1, r.2)
      | _ => none

/-- Reads the members of a record up to its closing brace. -/
def readMembers? : (fuel : Nat) → List (String × Exchange) → List Char →
    Option (List (String × Exchange) × List Char)
  | 0, _, _ => none
  | fuel + 1, members, cs =>
    match cs with
    | '"' :: rest =>
      match readText? rest with
      | none => none
      | some (name, rest) =>
        match skipGap rest with
        | ':' :: rest =>
          match readValue? fuel (skipGap rest) with
          | none => none
          | some (value, rest) =>
            let members := putMember members (String.ofList name) value
            match skipGap rest with
            | '\x7d' :: rest' => some (members, rest')
            | ',' :: rest' => readMembers? fuel members (skipGap rest')
            | _ => none
        | _ => none
    | _ => none

end

/-- Reads an exchange text. -/
def read? (s : String) : Option Exchange :=
  let cs := s.toList
  match readValue? (2 * cs.length + 2) (skipGap cs) with
  | some (x, rest) => if (skipGap rest).isEmpty then some x else none
  | none => none

/-! ### Writing -/

/-- One character inside double quotes; characters beyond ASCII stand for
themselves. -/
def escaped (c : Char) : List Char :=
  if c == '"' then ['\\', '"']
  else if c == '\\' then ['\\', '\\']
  else if c == '\n' then ['\\', 'n']
  else if c == '\r' then ['\\', 'r']
  else if c == '\t' then ['\\', 't']
  else if c.toNat < 32 then '\\' :: 'u' :: Text.hexDigits 4 c.toNat
  else [c]

/-- A text in double quotes. -/
def writtenText (s : String) : String :=
  String.ofList ('"' :: s.toList.flatMap escaped ++ ['"'])

mutual

/-- Structured data as text. -/
def written : Exchange → String
  | null => "null"
  | bool b => if b then "true" else "false"
  | int n => toString n
  | float x => x.text
  | str s => writtenText s
  | list items => "[" ++ ",".intercalate (writtenItems items) ++ "]"
  | record members => "\x7b" ++ ",".intercalate (writtenMembers members) ++ "\x7d"

/-- The texts of a list's items. -/
def writtenItems : List Exchange → List String
  | [] => []
  | x :: rest => written x :: writtenItems rest

/-- The texts of a record's members. -/
def writtenMembers : List (String × Exchange) → List String
  | [] => []
  | (name, x) :: rest => (writtenText name ++ ":" ++ written x) :: writtenMembers rest

end

end Exchange

end RelationalSearch
