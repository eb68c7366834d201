import RelationalSearch.Value
import RelationalSearch.Calendar.Written
import RelationalSearch.Number.Binary64Text
import RelationalSearch.Text.Quoted

/-!
# The text of a value

A value has two texts. `Value.shown` is what messages and patterns are made of:
a text is shown as itself. `Value.literal` is how a value is written inside a
list or a table: texts are quoted, dates carry their parts. The two differ only
for texts and dates.
-/

namespace RelationalSearch

/-- The parts of a time of day, as a literal lists them: seconds and microseconds
are left out when all that follows is zero. -/
def TimeOfDay.literalParts (t : TimeOfDay) : List Nat :=
  [t.hour, t.minute]
    ++ (if t.second == 0 && t.microsecond == 0 then []
        else if t.microsecond == 0 then [t.second] else [t.second, t.microsecond])

/-- A date as a literal. -/
def Date.literal (d : Date) : String :=
  "datetime.date(" ++ ", ".intercalate ([d.year, d.month, d.day].map toString) ++ ")"

/-- An offset as a literal: a whole number of days and the seconds that remain. -/
def literalOffset (offset : Int) : String :=
  if offset == 0 then "datetime.timezone.utc"
  else
    let days := Int.fdiv offset 86400
    let seconds := offset - days * 86400
    let parts := (if days == 0 then [] else ["days=" ++ toString days])
      ++ (if seconds == 0 then [] else ["seconds=" ++ toString seconds])
    "datetime.timezone(datetime.timedelta(" ++ ", ".intercalate parts ++ "))"

/-- A date and time as a literal. -/
def OffsetTime.literal (t : OffsetTime) : String :=
  let parts := [t.reading.date.year, t.reading.date.month, t.reading.date.day]
    ++ t.reading.time.literalParts
  "datetime.datetime(" ++ ", ".intercalate (parts.map toString)
    ++ (match t.offset with | some n => ", tzinfo=" ++ literalOffset n | none => "") ++ ")"

namespace Value

mutual

/-- A value as it is written inside a list or a table. -/
def literal : Value → String
  | null => "None"
  | bool true => "True"
  | bool false => "False"
  | int n => toString n
  | float x => x.text
  | str s => Text.quoted s
  | list items => "[" ++ ", ".intercalate (literals items) ++ "]"
  | tuple [item] => "(" ++ literal item ++ ",)"
  | tuple items => "(" ++ ", ".intercalate (literals items) ++ ")"
  | map entries => "\x7b" ++ ", ".intercalate (literalEntries entries) ++ "\x7d"
  | bag entries => "ParameterBag(\x7b" ++ ", ".intercalate (namedLiterals entries) ++ "\x7d)"
  | bytes octets => Text.quotedOctets octets
  | date d => d.literal
  | datetime t => t.literal
  | object => "<object>"

/-- The literals of a list's items. -/
def literals : List Value → List String
  | [] => []
  | x :: xs => literal x :: literals xs

/-- The literals of a table's entries. -/
def literalEntries : List (Value × Value) → List String
  | [] => []
  | (k, v) :: rest => (literal k ++ ": " ++ literal v) :: literalEntries rest

/-- The literals of a bag's entries. -/
def namedLiterals : List (String × Value) → List String
  | [] => []
  | (k, v) :: rest => (Text.quoted k ++ ": " ++ literal v) :: namedLiterals rest

end

/-- A value as messages show it. -/
def shown : Value → String
  | str s => s
  | date d => d.written
  | datetime t => t.written " "
  | v => v.literal

end Value

end RelationalSearch
