import RelationalSearch.Number.Binary64
import RelationalSearch.Text.Blank
import RelationalSearch.Value.Text

/-!
# Checked fields

Declarations and settings arrive as values and must have the form of their
fields. Checking a field gives what the field holds, or every place where the
form is wrong together with what is wrong there. A whole number may also be given
as text, as a truth value or as a floating number without places; a truth value
also as one of the usual words.
-/

namespace RelationalSearch

/-- A value in the form of its field, or the places where it is wrong and what is
wrong there. -/
abbrev Checked (α : Type) := Except (List (String × String)) α

namespace Checked

/-- Something is wrong at a place. -/
def wrong {α : Type} (place complaint : String) : Checked α := .error [(place, complaint)]

/-- All values of a list, or all complaints. -/
def all {α β : Type} (check : α → Checked β) : List α → Checked (List β)
  | [] => .ok []
  | x :: rest =>
    match check x, all check rest with
    | .ok y, .ok ys => .ok (y :: ys)
    | .ok _, .error es => .error es
    | .error e, .ok _ => .error e
    | .error e, .error es => .error (e ++ es)

/-- Complaints, if there are any. -/
def complaints {α : Type} : Checked α → List (String × String)
  | .ok _ => []
  | .error es => es

/-- A text. -/
def text (place : String) : Value → Checked String
  | .str s => .ok s
  | _ => wrong place "string_type"

/-- A text or nothing. -/
def optionalText (place : String) : Value → Checked (Option String)
  | .null => .ok none
  | .str s => .ok (some s)
  | _ => wrong place "string_type"

/-- A list of texts. -/
def texts (place : String) (v : Value) : Checked (List String) :=
  match v.items? with
  | some items => all (fun p => text (place ++ "." ++ toString p.2) p.1) items.zipIdx
  | none => wrong place "list_type"

/-- The entry of a table with texts as keys. -/
def entry {α : Type} (place : String) (check : String → Value → Checked α)
    (e : Value × Value) : Checked (String × α) :=
  let here := place ++ "." ++ e.1.shown
  match text (here ++ ".[key]") e.1, check here e.2 with
  | .ok k, .ok v => .ok (k, v)
  | k, v => .error (k.complaints ++ v.complaints)

/-- A table with texts as keys. -/
def table {α : Type} (place : String) (check : String → Value → Checked α) (v : Value) :
    Checked (List (String × α)) :=
  match v with
  | .map entries => all (entry place check) entries
  | _ => wrong place "dict_type"

/-! ### Whole numbers -/

/-- The digits of a number whose groups may be joined by single underscores. -/
def digitGroups? : List Char → Option (List Char)
  | [] => none
  | [c] => if c.isDigit then some [c] else none
  | c :: '_' :: rest => if c.isDigit then (digitGroups? rest).map (c :: ·) else none
  | c :: rest => if c.isDigit then (digitGroups? rest).map (c :: ·) else none

/-- The whole number that a text means: a sign, digits, and perhaps a point with
nothing but zeros after it. -/
def wholeOfText? (s : String) : Option Int :=
  let cs := Text.trimChars s.toList
  let (negative, digits) := match cs with
    | '-' :: rest => (true, rest)
    | '+' :: rest => (false, rest)
    | rest => (false, rest)
  let places := digits.dropWhile (· != '.')
  let whole := digits.takeWhile (· != '.')
  if !(places.drop 1).all (· == '0') then none
  else (digitGroups? whole).map fun ds =>
    let n : Int := Binary64.ofDigits ds
    if negative then -n else n

/-- A whole number. -/
def whole (place : String) : Value → Checked Int
  | .bool b => .ok (if b then 1 else 0)
  | .int n => .ok n
  | .float x =>
    match x.toInt? with
    | some n => .ok n
    | none => wrong place (if x.isFinite then "int_from_float" else "finite_number")
  | .str s =>
    if 4300 < s.length then wrong place "int_parsing_size"
    else match wholeOfText? s with
      | some n => .ok n
      | none => wrong place "int_parsing"
  | _ => wrong place "int_type"

/-! ### Truth values -/

/-- The words for truth values. -/
def truthWords : List (String × Bool) :=
  [("0", false), ("off", false), ("f", false), ("false", false), ("n", false), ("no", false),
   ("1", true), ("on", true), ("t", true), ("true", true), ("y", true), ("yes", true)]

/-- A truth value. -/
def truth (place : String) : Value → Checked Bool
  | .bool b => .ok b
  | .int n => if n = 0 then .ok false else if n = 1 then .ok true else wrong place "bool_parsing"
  | .float x =>
    match x.toInt? with
    | some 0 => .ok false
    | some 1 => .ok true
    | some _ => wrong place "bool_parsing"
    | none => wrong place "bool_type"
  | .str s =>
    match truthWords.lookup (String.ofList (s.toList.map Char.toLower)) with
    | some b => .ok b
    | none => wrong place "bool_parsing"
  | _ => wrong place "bool_type"

/-! ### Times -/

/-- A date and time, or nothing. -/
def optionalTime (place : String) : Value → Checked (Option OffsetTime)
  | .null => .ok none
  | .str s =>
    match OffsetTime.read? s with
    | some t => .ok (some t)
    | none => wrong place "datetime_from_date_parsing"
  | .datetime t => .ok (some t)
  | .date d => .ok (some ⟨⟨d, TimeOfDay.midnight⟩, none⟩)
  | _ => wrong place "datetime_type"

/-! ### Records -/

/-- A field that must be given. -/
def required {α : Type} (check : String → Value → Checked α) (fields : List (String × Value))
    (name : String) : Checked α :=
  match fields.lookup name with
  | some v => check name v
  | none => wrong name "missing"

/-- A field that may be left out. -/
def optional {α : Type} (check : String → Value → Checked α) (usual : α)
    (fields : List (String × Value)) (name : String) : Checked α :=
  match fields.lookup name with
  | some v => check name v
  | none => .ok usual

/-- The complaints about a part of a record, at its place. -/
def within {α : Type} (place : String) (c : Checked α) : Checked α :=
  c.mapError fun es => es.map fun e => (place ++ "." ++ e.1, e.2)

/-- The fields of a record: its entries under texts. -/
def fieldsOf (entries : List (Value × Value)) : List (String × Value) :=
  entries.filterMap fun e => e.1.text?.map fun k => (k, e.2)

end Checked

end RelationalSearch
