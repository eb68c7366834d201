import RelationalSearch.Error

/-!
# Tables of a database

What a statement needs to know of the tables that it mentions: their names, the
schema that they live in, and their columns. A table is found by its name with
its schema, or by its name alone.
-/

namespace RelationalSearch.Sql

/-- A table that statements can mention. -/
structure TableDef where
  schema : Option String
  name : String
  columns : List String
  deriving DecidableEq, Repr, Inhabited

/-- The name of a table with its schema. -/
def TableDef.key (t : TableDef) : String :=
  match t.schema with
  | some s => s ++ "." ++ t.name
  | none => t.name

/-- The tables that statements can mention. -/
structure Metadata where
  tables : List TableDef
  deriving Repr, Inhabited

/-- The table of a name, or the refusal. -/
def Metadata.table (m : Metadata) (name : String) : Except Failure TableDef :=
  match m.tables.find? (fun t => t.key == name) <|> m.tables.find? fun t => t.name == name with
  | some t => .ok t
  | none => .error (.refused (.unknownTable name "metadata"))

end RelationalSearch.Sql
