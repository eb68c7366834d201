import RelationalSearch.Predicate.Build
import RelationalSearch.Predicate.Exchange
import RelationalSearch.Sort
import RelationalSearch.TimeRange

/-!
# Compiled searches

All that a query needs to carry out a search: the table, the predicate, the
order, the range of time, and for information the entities that were visited, in
alphabetical order and each once.
-/

namespace RelationalSearch

/-- A search, ready to be carried out. -/
structure CompiledSearch where
  entity : String
  table : String
  predicate : Group
  sort : List SortKey
  timeRange : Option TimeRange
  visited : List String
  deriving Repr, Inhabited

/-- Names in the order of their characters, each once. -/
def sortedNames (names : List String) : List String :=
  (firstOccurrences names).mergeSort fun a b => decide (a ≤ b)

namespace CompiledSearch

/-- A search put together by hand; its predicate must be a group. -/
def assembled (table : String) (predicate : Option Predicate) (sort : List SortKey)
    (timeRange : Option TimeRange) : Except Failure CompiledSearch :=
  match predicate with
  | some (.group connective members) => .ok ⟨table, table, ⟨connective, members⟩, sort, timeRange, []⟩
  | _ => .error (.invalidFields [("predicate", "model_type")])

/-- A search whose operands are in the form of data exchange. -/
def exchanged (s : CompiledSearch) : Except Fault CompiledSearch :=
  (Predicate.exchangedMembers s.predicate.members).map fun members =>
    { s with predicate := ⟨s.predicate.connective, members⟩ }

end CompiledSearch

end RelationalSearch
