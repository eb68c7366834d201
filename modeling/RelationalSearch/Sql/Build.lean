import RelationalSearch.Predicate.Text
import RelationalSearch.Search.Compiled
import RelationalSearch.Sql.Clause

/-!
# From searches to statements

A compiled search is applied to a statement: its predicate and its range of time
become conditions, its order becomes terms of the statement's order. A group that
asks for nothing contributes nothing. A semi-join becomes the existence of a row
of the target, joined to the table that encloses it.

A missing column or table makes the statement fail, and so does an operand that
its comparison does not admit.
-/

namespace RelationalSearch.Sql

/-! ### Occurrences with their columns -/

/-- An occurrence of a table whose columns are known. -/
structure Source where
  occurrence : Occurrence
  table : TableDef
  deriving Repr, Inhabited

/-- A column of an occurrence. -/
def Source.column (s : Source) (name : String) : Except Failure ColumnRef :=
  if s.table.columns.contains name then .ok ⟨s.occurrence, name⟩
  else .error (.fault .missingKey)

/-! ### Comparisons -/

/-- A comparison as a clause on a column. -/
def Clause.ofComparison (column : ColumnRef) (comparison : Comparison) (value : Value) :
    Except Failure Clause :=
  match comparison, value with
  | .isNull, _ => .ok (.isNull column)
  | .equal, .null => .ok (.isNull column)
  | .equal, .bool b => .ok (.equalsTruth column b)
  | .equal, v => .ok (.equals column v)
  | .like, .null | .like, .bool _ => .error (.fault .badOperand)
  | .like, v => .ok (.like column v)
  | .oneOf, .str _ | .oneOf, .bytes _ => .error (.fault .badOperand)
  | .oneOf, v =>
    match v.alternatives? with
    | some values => .ok (.oneOf column values)
    | none => .error (.fault .badOperand)

/-- Several clauses joined by a connective: one clause stands for itself, and none
is no condition. -/
def Clause.joined (connective : Connective) : List Clause → Option Clause
  | [] => none
  | [c] => some c
  | clauses =>
    some (match connective with
      | .and => .conj clauses
      | .or => .disj clauses)

/-! ### Semi-joins -/

/-- The tables of a semi-join: its target and its association table. -/
def joinTables (metadata : Metadata) (relation : Relation) (targetTable : String) :
    Except Failure (TableDef × Option (TableDef × Association)) := do
  let target ← metadata.table targetTable
  match relation.secondary with
  | none => return (target, none)
  | some s => return (target, some (← metadata.table s.table, s))

/-- How a semi-join at a depth is joined to what encloses it: the link to its
association table, and the condition on the enclosing row. -/
def joinClauses (relation : Relation) (source : Source) (depth : Nat) (target : TableDef)
    (secondary : Option (TableDef × Association)) : Except Failure (Option Link × Clause) := do
  let inner : Source := ⟨.target depth, target⟩
  match secondary with
  | none =>
    let remote ← inner.column relation.remoteKey
    let own ← source.column relation.localKey
    return (none, .same remote own)
  | some (table, association) =>
    let between : Source := ⟨.link depth, table⟩
    let linked ← between.column association.remoteKey
    let remote ← inner.column relation.remoteKey
    let near ← between.column association.localKey
    let own ← source.column relation.localKey
    return (some ⟨table, linked, remote⟩, .same near own)

/-! ### Predicates -/

mutual

/-- The clause of a predicate on an occurrence, if it asks for anything; semi-joins
directly below it are at the given depth. -/
def clause? (metadata : Metadata) (source : Source) (depth : Nat) :
    Predicate → Except Failure (Option Clause)
  | .condition c => do
    let column ← source.column c.column
    let clause ← Clause.ofComparison column c.comparison c.value
    return some clause
  | .group connective members => do
    let clauses ← memberClauses metadata source depth members
    return Clause.joined connective clauses
  | .related relation targetTable connective members => do
    let (target, secondary) ← joinTables metadata relation targetTable
    let (link, join) ← joinClauses relation source depth target secondary
    let clauses ← memberClauses metadata ⟨.target depth, target⟩ (depth + 1) members
    return some (.existsRow depth target link
      (join :: (Clause.joined connective clauses).toList))

/-- The clauses of several predicates, without those that ask for nothing. -/
def memberClauses (metadata : Metadata) (source : Source) (depth : Nat) :
    List Predicate → Except Failure (List Clause)
  | [] => return []
  | p :: rest => do
    let clause ← clause? metadata source depth p
    let clauses ← memberClauses metadata source depth rest
    return clause.toList ++ clauses

end

/-! ### Time and order -/

/-- The condition of a range of time. -/
def timeClause (source : Source) (range : TimeRange) : Except Failure Clause := do
  let column ← source.column range.column
  match range.start, range.finish with
  | some low, some high => return .between column (.datetime low) (.datetime high)
  | some low, none => return .atLeast column (.datetime low)
  | none, some high => return .atMost column (.datetime high)
  | none, none => throw (.fault .badOperand)

/-- A term of a statement's order. -/
inductive OrderTerm where
  /-- Whether a column has a value: zero if not, one if so. -/
  | presence (column : ColumnRef) (descending : Bool)
  /-- The value of a column. -/
  | value (column : ColumnRef) (descending : Bool)
  deriving DecidableEq, Repr, Inhabited

/-- The terms of a sort key: rows without a value are put together before or after
all others, and then the column decides. -/
def orderTerms (source : Source) (key : SortKey) : Except Failure (List OrderTerm) := do
  let column ← source.column key.column
  return [.presence column !key.nullsFirst, .value column key.descending]

/-! ### Statements -/

/-- A statement that selects columns. -/
structure Statement where
  selected : List ColumnRef
  /-- The table that is searched. -/
  root : TableDef
  /-- The table that columns are selected from. -/
  selectedTable : TableDef
  /-- The occurrence of that table. -/
  base : Occurrence
  criteria : List Clause
  order : List OrderTerm
  deriving Repr, Inhabited

/-- The columns that a statement selects and the condition that it has before a
search is applied. -/
structure Selection where
  table : TableDef
  columns : List String
  /-- A column that must have a value. -/
  present : Option String
  deriving Repr, Inhabited

/-- All columns of a table. -/
def Selection.all (table : TableDef) : Selection := ⟨table, table.columns, none⟩

/-- The occurrence of a selection's table in a statement that searches a table. -/
def Selection.occurrence (s : Selection) (root : TableDef) : Occurrence :=
  if s.table = root then .root else .selected

/-- Applies a search to a selection, by default to all columns of its table. -/
def Statement.build (metadata : Metadata) (search : CompiledSearch)
    (selection : Option Selection) : Except Failure Statement := do
  let table ← metadata.table search.table
  let source : Source := ⟨.root, table⟩
  let selection := selection.getD (Selection.all table)
  let base := selection.occurrence table
  let condition ← clause? metadata source 0 search.predicate.toPredicate
  let time ← match search.timeRange with
    | some range => (timeClause source range).map some
    | none => pure none
  let order ← search.sort.mapM (orderTerms source)
  return {
    selected := selection.columns.map (ColumnRef.mk base)
    root := table
    selectedTable := selection.table
    base
    criteria := (selection.present.toList.map fun c => .isPresent ⟨base, c⟩)
      ++ condition.toList ++ time.toList
    order := order.flatten }

end RelationalSearch.Sql
