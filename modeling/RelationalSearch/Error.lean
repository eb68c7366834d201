/-!
# Why a search is refused

Every refusal has a cause; the cause gives the message, the kind of error, and
through the kind the status with which a server answers. What goes wrong outside
the rules of searching (a value of a kind that no rule looks at, a broken
connection) is a `Fault` and has no message.
-/

namespace RelationalSearch

/-- The kinds of refusals. -/
inductive ErrorKind where
  /-- The parameters are no mapping with unique keys, or a value cannot be read. -/
  | invalidInput
  /-- A table is not in the schema. -/
  | unknownTable
  /-- A relation may not be searched, or leads nowhere. -/
  | unknownRelation
  /-- An entity is not registered. -/
  | unknownEntity
  /-- A column's type has no category. -/
  | schemaIntrospectionFailure
  /-- The relations were followed beyond the limit. -/
  | configurationError
  deriving DecidableEq, Repr, Inhabited

namespace ErrorKind

/-- The name of a kind of error. -/
def name : ErrorKind → String
  | invalidInput => "InvalidInput"
  | unknownTable => "UnknownTable"
  | unknownRelation => "UnknownRelation"
  | unknownEntity => "UnknownEntity"
  | schemaIntrospectionFailure => "SchemaIntrospectionFailure"
  | configurationError => "ConfigurationError"

/-- The status of a server's answer: 4xx when the request is at fault, 500 when
the set-up is. -/
def status : ErrorKind → Nat
  | invalidInput | unknownRelation | unknownEntity => 400
  | unknownTable => 404
  | schemaIntrospectionFailure | configurationError => 500

end ErrorKind

/-- The causes of a refusal. -/
inductive SearchError where
  /-- A sequence stands where a mapping is needed. -/
  | positional
  /-- A value of the named kind stands where a mapping is needed. -/
  | notMapping (kind : String)
  /-- A key is no text; its literal is given. -/
  | keyNotText (literal : String)
  /-- A value under a key is of a kind that cannot be searched. -/
  | unsupportedValue (key kind : String)
  /-- An entry is not a pair. -/
  | notPair
  /-- A key occurs twice. -/
  | duplicateKey (key : String)
  /-- A key occurs plainly after having occurred with sub-keys. -/
  | mixesPlainAndKeyed (key : String)
  /-- A key occurs as a list and with sub-keys. -/
  | mixesListAndKeyed (key : String)
  /-- No time zone has this name. -/
  | unknownZone (name : String)
  /-- A text is no date or time. -/
  | unreadableTime (text : String)
  /-- The schema of a driver has no such table. -/
  | unknownTable (table driver : String)
  /-- The entity does not allow the relation. -/
  | relationNotAllowed (relation entity : String)
  /-- The entity allows the relation without declaring it. -/
  | relationNotDeclared (relation entity : String)
  /-- The relation leads to an entity that is not registered. -/
  | targetNotSearchable (relation entity target : String)
  /-- No entity has this name. -/
  | unknownEntity (entity : String)
  /-- The type of a column was not recognized. -/
  | unrecognizedType (table column : String)
  /-- A column has no type at all. -/
  | missingType (table column : String)
  /-- The relations were followed beyond the limit. -/
  | tooDeep (limit : Nat) (entity : String)
  deriving DecidableEq, Repr, Inhabited

namespace SearchError

/-- The kind of a cause. -/
def kind : SearchError → ErrorKind
  | positional | notMapping _ | keyNotText _ | unsupportedValue .. | notPair | duplicateKey _
  | mixesPlainAndKeyed _ | mixesListAndKeyed _ | unknownZone _ | unreadableTime _ => .invalidInput
  | unknownTable .. => .unknownTable
  | relationNotAllowed .. | relationNotDeclared .. | targetNotSearchable .. => .unknownRelation
  | unknownEntity _ => .unknownEntity
  | unrecognizedType .. | missingType .. => .schemaIntrospectionFailure
  | tooDeep .. => .configurationError

/-- The message of a cause. -/
def message : SearchError → String
  | positional => "Parameters must be a key-value mapping, not a positional sequence."
  | notMapping kind => "Parameters must be a mapping, got " ++ kind ++ "."
  | keyNotText literal => "Parameter keys must be strings, got " ++ literal ++ "."
  | unsupportedValue key kind => "Unsupported value for '" ++ key ++ "': " ++ kind
  | notPair => "Parameter pairs must have exactly two items."
  | duplicateKey key => "Duplicate parameter key '" ++ key ++ "'."
  | mixesPlainAndKeyed key => "Parameter '" ++ key ++ "' mixes plain and keyed values."
  | mixesListAndKeyed key => "Parameter '" ++ key ++ "' mixes list and keyed values."
  | unknownZone name => "Unknown time zone '" ++ name ++ "'."
  | unreadableTime text => "Cannot parse '" ++ text ++ "' as a date or time."
  | unknownTable table driver =>
    "Table '" ++ table ++ "' does not exist for driver '" ++ driver ++ "'."
  | relationNotAllowed relation entity =>
    "'" ++ relation ++ "' is not included in the allowed relations of " ++ entity ++ "."
  | relationNotDeclared relation entity =>
    "The " ++ entity ++ " entity does not declare the relation '" ++ relation ++ "'."
  | targetNotSearchable relation entity target =>
    "Relation '" ++ relation ++ "' of " ++ entity ++ " targets '" ++ target
      ++ "', which is not a searchable entity."
  | unknownEntity entity => "Entity '" ++ entity ++ "' is not registered as searchable."
  | unrecognizedType table column =>
    "Cannot classify column '" ++ table ++ "." ++ column ++ "': its type was not recognized. "
      ++ "Add '" ++ table ++ "." ++ column ++ "' to the driver's type_overrides."
  | missingType table column => "Column '" ++ table ++ "." ++ column ++ "' has no type."
  | tooDeep limit entity =>
    "Relation search exceeded the maximum depth of " ++ toString limit ++ " at " ++ entity ++ "."

end SearchError

/-- What can go wrong outside the rules of searching. -/
inductive Fault where
  /-- A value is of a kind that the operation is not defined on. -/
  | wrongKind
  /-- A key, a column or a setting is missing. -/
  | missingKey
  /-- A value is of the right kind but impossible. -/
  | badValue
  /-- A date leaves the calendar. -/
  | outOfCalendar
  /-- Octets are no UTF-8 text. -/
  | undecodable
  /-- A name of the time zone database is a folder. -/
  | folder
  /-- The database cannot be reached. -/
  | noConnection
  /-- An operand cannot be compared in a statement. -/
  | badOperand
  /-- The database refuses an instruction. -/
  | refusedByDatabase
  /-- A setting is no valid exchange text. -/
  | brokenSetting
  /-- A value cannot be written in data exchange. -/
  | unwritable
  /-- A mapped class names a relation that cannot be joined. -/
  | noForeignKeys
  /-- A mapped class names a relation that can be joined in several ways. -/
  | ambiguousForeignKeys
  /-- A mapped class is not consistent. -/
  | badMapping
  /-- A marked up text ends a style that it has not begun. -/
  | unbegunStyle
  /-- What is waited for is never finished. -/
  | unfinished
  deriving DecidableEq, Repr, Inhabited

/-- How an operation ends when it has no result. -/
inductive Failure where
  /-- A rule of searching refuses the request. -/
  | refused (cause : SearchError)
  /-- A declaration has wrong fields: their places and what is wrong there. -/
  | invalidFields (fields : List (String × String))
  /-- Something fails that no rule speaks of. -/
  | fault (fault : Fault)
  deriving DecidableEq, Repr, Inhabited

end RelationalSearch
