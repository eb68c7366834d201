import RelationalSearch.Error
import RelationalSearch.Schema.ColumnType
import RelationalSearch.Schema.Table

/-!
# Categories of columns

The category of a column decides how it can be compared. Overrides come first:
one for the column itself, then one for its type. Without an override a modelled
type has the category of its family, a written name the category that usual names
have or else itself, and a type without a model has none.
-/

namespace RelationalSearch

/-- The categories of the usual names. -/
def usualCategories : List (String × String) :=
  [("int", "integer"), ("integer", "integer"), ("bigint", "integer"), ("smallint", "integer"),
   ("tinyint", "integer"), ("mediumint", "integer"), ("bool", "boolean"), ("boolean", "boolean"),
   ("float", "float"), ("double", "float"), ("double precision", "float"), ("real", "float"),
   ("decimal", "numeric"), ("numeric", "numeric"), ("datetime", "datetime"),
   ("timestamp", "datetime"), ("timestamptz", "datetime"), ("date", "date"), ("time", "time"),
   ("interval", "interval"), ("blob", "binary"), ("binary", "binary"), ("varbinary", "binary"),
   ("bytea", "binary"), ("json", "json"), ("jsonb", "json"), ("uuid", "uuid")]

/-- The name of a column with that of its table, in the form of override keys. -/
def qualifiedName (table column : String) : String := Text.toSmall (table ++ "." ++ column)

/-- The category of a column without overrides. -/
def ownCategory (table : String) (column : RawColumn) : Except SearchError String :=
  match column.type with
  | .unrecognized _ => .error (.unrecognizedType table column.name)
  | .modelled model => .ok model.category
  | .named _ =>
    let name := column.type.typeName
    if name.isEmpty then .error (.missingType table column.name)
    else .ok ((usualCategories.lookup name).getD name)

/-- The category of a column. -/
def categorize (table : String) (column : RawColumn) (overrides : List (String × String)) :
    Except SearchError String :=
  match overrides.lookup (qualifiedName table column.name) with
  | some category => .ok category
  | none =>
    match overrides.lookup column.type.typeName with
    | some category => .ok category
    | none => ownCategory table column

/-- The classified form of a column: it is compared as text unless its category
is among those given. -/
def classifyColumn (table : String) (overrides : List (String × String)) (nonString : List String)
    (column : RawColumn) : Except SearchError Column :=
  (categorize table column overrides).map fun category =>
    ⟨column.name, category, !nonString.contains category⟩

/-- The classified form of a table. -/
def classifyTable (table driver : String) (overrides : List (String × String))
    (nonString : List String) (columns : List RawColumn) : Except SearchError Table :=
  (columns.mapM (classifyColumn table overrides (nonString.map Text.toSmall))).map
    (Table.ofColumns table driver)

end RelationalSearch
