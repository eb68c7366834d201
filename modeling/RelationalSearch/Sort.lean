import RelationalSearch.Log
import RelationalSearch.Params.Bag
import RelationalSearch.Text.CaseMapping
import RelationalSearch.Word.Singular

/-!
# The order of results

An order is asked for by one of three parameters; the first that is filled
decides. `sort` takes columns, pairs of a column and a direction, or a table from
columns to directions; `sortBy` and `sortByDesc` take columns only. Columns that
the table does not have are dropped, and so is what cannot be read.
-/

namespace RelationalSearch

/-- A column to sort by. -/
structure SortKey where
  column : String
  descending : Bool
  nullsFirst : Bool
  deriving DecidableEq, Repr, Inhabited

namespace SortKey

/-- The parameters that ask for an order. -/
def parameterNames : List String := ["sort", "sortBy", "sortByDesc"]

/-- A direction, without regard to case and to white space around it: whether it
is descending. -/
def direction? (s : String) : Option Bool :=
  let trimmed := Text.trim s
  let folded := trimmed.toList.map Word.foldLetter
  if folded == "asc".toList || folded == "desc".toList then some (Text.toSmall trimmed == "desc")
  else none

/-- The items of a list, or a single value as the only item. -/
def itemsOf (v : Value) : List Value := v.items?.getD [v]

/-- A column and a direction given as a pair. -/
def ofPair (column direction : Value) : Logged (Option (String × Bool)) :=
  match column, direction with
  | .str c, .str d =>
    match direction? d with
    | some descending => ⟨[], some (c, descending)⟩
    | none => ⟨[.debug ("Skipping sort entry with direction " ++ (Value.str d).literal)], none⟩
  | _, _ => ⟨[], none⟩

/-- One entry of `sort`. -/
def ofEntry (entry : Value) : Logged (Option (String × Bool)) :=
  match entry, entry.mapping?, entry.items? with
  | .str column, _, _ => ⟨[], some (column, false)⟩
  | _, some [(column, direction)], _ => ofPair column direction
  | _, _, some [column, direction] => ofPair column direction
  | _, _, _ => ⟨[.debug ("Skipping sort entry " ++ entry.literal)], none⟩

/-- The entries of `sort`: those of a table one by one, or the items of a list. -/
def entriesOf (v : Value) : List Value :=
  match v.mapping? with
  | some entries => entries.map fun e => .map [e]
  | none => itemsOf v

/-- The columns and directions that a bag asks for. -/
def requested (params : Bag) : Logged (List (String × Bool)) :=
  let columnsOf := fun (name : String) (descending : Bool) =>
    (itemsOf (params.get name)).filterMap fun v => v.text?.map fun c => (c, descending)
  if params.filled "sort" then
    let read := (entriesOf (params.get "sort")).map ofEntry
    ⟨read.flatMap Logged.lines, read.filterMap Logged.value⟩
  else if params.filled "sortBy" then ⟨[], columnsOf "sortBy" false⟩
  else if params.filled "sortByDesc" then ⟨[], columnsOf "sortByDesc" true⟩
  else ⟨[], []⟩

/-- The order that a bag asks for, among the columns of a table. -/
def resolve (params : Bag) (columns : List String) (nullsFirst : Bool) : Logged (List SortKey) :=
  let asked := requested params
  let dropped := (asked.value.filter fun r => !columns.contains r.1).map fun r =>
    LogLine.debug ("Dropping unknown sort column '" ++ r.1 ++ "'")
  ⟨asked.lines ++ dropped,
    (asked.value.filter fun r => columns.contains r.1).map fun r => ⟨r.1, r.2, nullsFirst⟩⟩

end SortKey

end RelationalSearch
