import RelationalSearch.Calendar.Date
import RelationalSearch.Number.Binary64

/-!
# Request values

A request carries values whose kind is known only when it arrives: scalars,
lists, and tables from values to values. Some kinds (octets, dates, opaque
objects) can stand in a request but never in a search; they are told apart here
so that they can be refused by name.
-/

namespace RelationalSearch

/-- A value of a request. -/
inductive Value where
  /-- No value. -/
  | null
  /-- A truth value. -/
  | bool (b : Bool)
  /-- A whole number of any size. -/
  | int (n : Int)
  /-- A floating-point number. -/
  | float (x : Binary64)
  /-- A text. -/
  | str (s : String)
  /-- A list. -/
  | list (items : List Value)
  /-- A list that cannot grow. -/
  | tuple (items : List Value)
  /-- A table, in the order of its entries. -/
  | map (entries : List (Value × Value))
  /-- A parameter bag. -/
  | bag (entries : List (String × Value))
  /-- Octets. -/
  | bytes (octets : List UInt8)
  /-- A date. -/
  | date (d : Date)
  /-- A date and time. -/
  | datetime (t : OffsetTime)
  /-- A value of no known kind. -/
  | object
  deriving Repr, Inhabited

namespace Value

/-- The name of a value's kind, as messages give it. -/
def kindName : Value → String
  | null => "NoneType"
  | bool _ => "bool"
  | int _ => "int"
  | float _ => "float"
  | str _ => "str"
  | list _ => "list"
  | tuple _ => "tuple"
  | map _ => "dict"
  | bag _ => "ParameterBag"
  | bytes _ => "bytes"
  | date _ => "date"
  | datetime _ => "datetime"
  | object => "object"

/-- Texts, numbers, truth values and no value. -/
def isScalar : Value → Bool
  | null | bool _ | int _ | float _ | str _ => true
  | _ => false

/-- The entries of a table or bag. -/
def mapping? : Value → Option (List (Value × Value))
  | map entries => some entries
  | bag entries => some (entries.map fun e => (str e.1, e.2))
  | _ => none

/-- The items of a list of either kind. -/
def items? : Value → Option (List Value)
  | list items => some items
  | tuple items => some items
  | _ => none

/-- The text, if the value is one. -/
def text? : Value → Option String
  | str s => some s
  | _ => none

end Value

end RelationalSearch
