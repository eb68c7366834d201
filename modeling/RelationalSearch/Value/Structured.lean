import RelationalSearch.Exchange
import RelationalSearch.Value

/-!
# Structured data as values

Structured data is taken for a value: lists become lists and records tables.
-/

namespace RelationalSearch.Exchange

mutual

/-- Structured data as a value. -/
def toValue : Exchange → Value
  | null => .null
  | bool b => .bool b
  | int n => .int n
  | float x => .float x
  | str s => .str s
  | list items => .list (toValues items)
  | record members => .map (toEntries members)

/-- The items of a list as values. -/
def toValues : List Exchange → List Value
  | [] => []
  | x :: rest => toValue x :: toValues rest

/-- The members of a record as entries. -/
def toEntries : List (String × Exchange) → List (Value × Value)
  | [] => []
  | (name, x) :: rest => (.str name, toValue x) :: toEntries rest

end

end RelationalSearch.Exchange
