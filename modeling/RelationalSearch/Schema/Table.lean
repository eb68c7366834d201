/-!
# Classified tables

What a search knows of a table: its columns in order, the category of each, and
whether its values are compared as texts. A column that is not known counts as
text.
-/

namespace RelationalSearch

/-- A column with its category. -/
structure Column where
  name : String
  category : String
  isStringLike : Bool
  deriving DecidableEq, Repr, Inhabited

/-- A table with its columns. -/
structure Table where
  name : String
  driver : String
  columns : List Column
  deriving DecidableEq, Repr, Inhabited

namespace Table

/-- Puts a column in a list: one of the same name is replaced where it stands. -/
def putColumn : List Column → Column → List Column
  | [], c => [c]
  | x :: rest, c => if x.name = c.name then c :: rest else x :: putColumn rest c

/-- The table of a list of columns; of several columns of one name, the place is
the first one's and the rest the last one's. -/
def ofColumns (name driver : String) (columns : List Column) : Table :=
  ⟨name, driver, columns.foldl putColumn []⟩

/-- The column of a name. -/
def column? (t : Table) (name : String) : Option Column :=
  t.columns.find? fun c => c.name == name

/-- The names of the columns, in order. -/
def columnNames (t : Table) : List String := t.columns.map Column.name

/-- Whether a column has a name. -/
def hasColumn (t : Table) (name : String) : Bool := (t.column? name).isSome

/-- Whether the values of a column are compared as texts. -/
def isStringLike (t : Table) (name : String) : Bool :=
  match t.column? name with
  | some c => c.isStringLike
  | none => true

end Table

end RelationalSearch
