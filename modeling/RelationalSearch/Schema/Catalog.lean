import RelationalSearch.Error
import RelationalSearch.Schema.Table

/-!
# The schema of a driver

The classified tables of one driver, in the order in which they were listed.
-/

namespace RelationalSearch

/-- The tables of a driver. -/
structure Catalog where
  driver : String
  tables : List Table
  deriving DecidableEq, Repr, Inhabited

namespace Catalog

/-- Puts a table in a list: one of the same name is replaced where it stands. -/
def putTable : List Table → Table → List Table
  | [], t => [t]
  | x :: rest, t => if x.name = t.name then t :: rest else x :: putTable rest t

/-- The table of a name. -/
def find? (c : Catalog) (name : String) : Option Table := c.tables.find? fun t => t.name == name

/-- Whether a table has a name. -/
def hasTable (c : Catalog) (name : String) : Bool := (c.find? name).isSome

/-- The table of a name, or the refusal. -/
def table (c : Catalog) (name : String) : Except SearchError Table :=
  match c.find? name with
  | some t => .ok t
  | none => .error (.unknownTable name c.driver)

/-- The searchable columns of a table: all but the excluded ones and the one that
has the name of the broad-search parameter. -/
def searchable (t : Table) (excluded : List String) (broadKey : String) : List String :=
  t.columnNames.filter fun c => !excluded.contains c && c != broadKey

end Catalog

end RelationalSearch
