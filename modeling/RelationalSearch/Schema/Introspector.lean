import RelationalSearch.Error
import RelationalSearch.Schema.ColumnType

/-!
# Introspectors

An introspector lists the tables of a driver and the columns of a table. What it
answers can change from one reading to the next, and any reading can fail; so a
reading takes a state and gives a new one, also when it fails. Before a driver is
listed it is told the names of types that it should make known.

The simplest introspector serves a fixed description of tables, under one driver.
-/

namespace RelationalSearch

/-- A reading, which may fail and changes a state. -/
abbrev Reading (σ α : Type) := ExceptT Failure (StateM σ) α

/-- Something that lists tables and columns. -/
structure Introspector (σ : Type) where
  /-- Makes names of types known to a driver. -/
  learn : (driver : String) → (names : List String) → Reading σ Unit
  /-- The names of a driver's tables. -/
  listTables : (driver : String) → Reading σ (List String)
  /-- The columns of a table. -/
  listColumns : (driver table : String) → Reading σ (List RawColumn)

/-! ### Fixed descriptions -/

/-- A fixed description of one driver's tables. The first listings fail, as
those of a database do that cannot be reached at first. -/
structure FixedTables where
  driver : String
  tables : List (String × List RawColumn)
  /-- How many listings fail before the first that succeeds. -/
  failures : Nat
  deriving Repr, Inhabited

namespace FixedTables

/-- Puts a column in a list: one of the same name is replaced where it stands. -/
def putColumn : List RawColumn → RawColumn → List RawColumn
  | [], c => [c]
  | x :: rest, c => if x.name = c.name then c :: rest else x :: putColumn rest c

/-- Puts a table in a list: one of the same name is replaced where it stands. -/
def putTable : List (String × List RawColumn) → String × List RawColumn →
    List (String × List RawColumn)
  | [], t => [t]
  | x :: rest, t => if x.1 = t.1 then t :: rest else x :: putTable rest t

/-- The description of a list of tables. -/
def ofTables (driver : String) (tables : List (String × List RawColumn)) (failures : Nat) :
    FixedTables :=
  ⟨driver, (tables.map fun t => (t.1, t.2.foldl putColumn [])).foldl putTable [], failures⟩

/-- The introspector of a description; its state is the number of listings. -/
def introspector (f : FixedTables) : Introspector Nat where
  learn _ _ := pure ()
  listTables driver := do
    let listings ← get
    set (listings + 1)
    if listings < f.failures then throw (.fault .noConnection)
    else return if driver = f.driver then f.tables.map Prod.fst else []
  listColumns driver table :=
    match if driver = f.driver then f.tables.lookup table else none with
    | some columns => pure columns
    | none => throw (.refused (.unknownTable table driver))

end FixedTables

end RelationalSearch
