import RelationalSearch.Text.Blank
import RelationalSearch.Text.CaseMapping
import RelationalSearch.Text.Split

/-!
# Column types

A column's type is known in one of three ways: only by a name that somebody
wrote down, by a type that the driver has a model of, or by a name that the
database reports and the driver has no model of. Models form families, and a
model can belong to several: an enumeration is also a string, a floating type
also numeric. The families have an order of precedence, and the first one a
model belongs to gives its category.

Names are compared in one form (`TypeName.normalized`): small letters, without
arguments in parentheses.
-/

namespace RelationalSearch

/-! ### Names of types -/

namespace TypeName

/-- A line without what stands between its first opening and its last closing
parenthesis. -/
def withoutArguments (line : List Char) : List Char :=
  let opened := line.dropWhile (· != '(')
  if opened.contains ')' then
    line.takeWhile (· != '(') ++ (opened.reverse.takeWhile (· != ')')).reverse
  else line

/-- The form in which names of types are compared. -/
def normalized (name : String) : String :=
  let lines := (Text.splitAtEach '\n' name.toList).map withoutArguments
  Text.toSmall (Text.trim (String.ofList (Text.joinWith '\n' lines)))

end TypeName

/-! ### Families -/

/-- The families of types. -/
inductive TypeFamily where
  | boolean
  | enumerated
  | integer
  | float
  | numeric
  | datetime
  | date
  | time
  | interval
  | json
  | array
  | uuid
  | binary
  | string
  deriving DecidableEq, Repr, Inhabited

namespace TypeFamily

/-- The families in their order of precedence. -/
def precedence : List TypeFamily :=
  [boolean, enumerated, integer, float, numeric, datetime, date, time, interval, json, array,
   uuid, binary, string]

/-- The category of a family. -/
def category : TypeFamily → String
  | boolean => "boolean"
  | enumerated => "enum"
  | integer => "integer"
  | float => "float"
  | numeric => "numeric"
  | datetime => "datetime"
  | date => "date"
  | time => "time"
  | interval => "interval"
  | json => "json"
  | array => "array"
  | uuid => "uuid"
  | binary => "binary"
  | string => "string"

/-- The order of precedence leaves no family out. -/
theorem mem_precedence (f : TypeFamily) : f ∈ precedence := by
  cases f <;> decide

end TypeFamily

/-! ### Types -/

/-- A type that a driver has a model of. -/
structure TypeModel where
  name : String
  families : List TypeFamily
  deriving DecidableEq, Repr, Inhabited

namespace TypeModel

/-- The category of a model: that of its first family, or its name. -/
def category (t : TypeModel) : String :=
  match TypeFamily.precedence.find? t.families.contains with
  | some f => f.category
  | none => TypeName.normalized t.name

end TypeModel

/-- The type of a column. -/
inductive ColumnType where
  /-- A name that somebody wrote down. -/
  | named (text : String)
  /-- A type that the driver has a model of. -/
  | modelled (model : TypeModel)
  /-- A name that the database reports and the driver has no model of. -/
  | unrecognized (name : String)
  deriving DecidableEq, Repr, Inhabited

namespace ColumnType

/-- The name of a type, in the form in which names are compared. -/
def typeName : ColumnType → String
  | named text => TypeName.normalized text
  | modelled model => TypeName.normalized model.name
  | unrecognized name => TypeName.normalized name

/-- The type of a column that has none. -/
def untyped : ColumnType := unrecognized "null"

/-- The type that stands for a name without a model. -/
def reported (name : String) : ColumnType := unrecognized (Text.toSmall name)

/-- Whether a type can stand for a name: the name of a type has no null character in it. -/
def canReport (name : String) : Bool := !name.toList.contains (Char.ofNat 0)

end ColumnType

/-- A column before it is classified. -/
structure RawColumn where
  name : String
  type : ColumnType
  deriving DecidableEq, Repr, Inhabited

end RelationalSearch
