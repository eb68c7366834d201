import RelationalSearch.Error
import RelationalSearch.Schema.TypeModels

/-!
# What a driver makes of reported names

A database reports the type of a column by a name; a driver's type map says which
type that is. `TypeMap.register` teaches a map further names: each becomes known
in small and in capital letters, as a type without a model. Names that are known
already stay as they are.
-/

namespace RelationalSearch

/-- The types of the names that a database reports. -/
structure TypeMap where
  entries : List (String × ColumnType)
  deriving Repr, Inhabited

namespace TypeMap

/-- The type of a reported name. -/
def find? (m : TypeMap) (key : String) : Option ColumnType := m.entries.lookup key

/-- Whether a name is known. -/
def knows (m : TypeMap) (key : String) : Bool := (m.find? key).isSome

/-- Makes a name known, unless it is. -/
def learn (m : TypeMap) (key : String) (type : ColumnType) : TypeMap :=
  if m.knows key then m else ⟨m.entries ++ [(key, type)]⟩

/-- Makes a name known in small and in capital letters. -/
def registerName (m : TypeMap) (name : String) : TypeMap :=
  (m.learn (Text.toSmall name) (.reported name)).learn (Text.toCapital name) (.reported name)

/-- Makes names known. -/
def register (m : TypeMap) (names : List String) : TypeMap := names.foldl registerName m

/-- Whether a name is known without a model. -/
def reports (m : TypeMap) (key : String) : Bool :=
  match m.find? key with
  | some (.unrecognized _) => true
  | _ => false

/-! ### The maps of single databases -/

/-- The map that knows names by their models in a vocabulary. -/
def ofModels (vocabulary : String) (names : List (String × String)) : TypeMap :=
  ⟨names.filterMap fun n => (TypeModel.find? vocabulary n.2).map fun t => (n.1, .modelled t)⟩

/-- The names of SQLite. -/
def sqlite : TypeMap :=
  ofModels "" [("BIGINT", "BIGINT"), ("BLOB", "BLOB"), ("BOOL", "BOOLEAN"), ("BOOLEAN", "BOOLEAN"),
    ("CHAR", "CHAR"), ("DATE", "DATE"), ("DATE_CHAR", "DATE"), ("DATETIME", "DATETIME"),
    ("DATETIME_CHAR", "DATETIME"), ("DOUBLE", "DOUBLE"), ("DOUBLE_PRECISION", "DOUBLE_PRECISION"),
    ("DECIMAL", "DECIMAL"), ("FLOAT", "FLOAT"), ("INT", "INTEGER"), ("INTEGER", "INTEGER"),
    ("JSON", "JSON"), ("NUMERIC", "NUMERIC"), ("REAL", "REAL"), ("SMALLINT", "SMALLINT"),
    ("TEXT", "TEXT"), ("TIME", "TIME"), ("TIME_CHAR", "TIME"), ("TIMESTAMP", "TIMESTAMP"),
    ("VARCHAR", "VARCHAR"), ("NVARCHAR", "NVARCHAR")]

/-- The names of MySQL. -/
def mysql : TypeMap :=
  ofModels "mysql" [("bigint", "BIGINT"), ("binary", "BINARY"), ("bit", "BIT"), ("blob", "BLOB"),
    ("boolean", "BOOLEAN"), ("char", "CHAR"), ("date", "DATE"), ("datetime", "DATETIME"),
    ("decimal", "DECIMAL"), ("double", "DOUBLE"), ("enum", "ENUM"), ("fixed", "DECIMAL"),
    ("float", "FLOAT"), ("int", "INTEGER"), ("integer", "INTEGER"), ("json", "JSON"),
    ("longblob", "LONGBLOB"), ("longtext", "LONGTEXT"), ("mediumblob", "MEDIUMBLOB"),
    ("mediumint", "MEDIUMINT"), ("mediumtext", "MEDIUMTEXT"), ("nchar", "NCHAR"),
    ("nvarchar", "NVARCHAR"), ("numeric", "NUMERIC"), ("set", "SET"), ("smallint", "SMALLINT"),
    ("text", "TEXT"), ("time", "TIME"), ("timestamp", "TIMESTAMP"), ("tinyblob", "TINYBLOB"),
    ("tinyint", "TINYINT"), ("tinytext", "TINYTEXT"), ("varbinary", "VARBINARY"),
    ("varchar", "VARCHAR"), ("year", "YEAR")]

/-- The names of PostgreSQL. -/
def postgresql : TypeMap :=
  ofModels "pg" [("_array", "ARRAY"), ("hstore", "HSTORE"), ("json", "JSON"), ("jsonb", "JSONB"),
    ("int4range", "INT4RANGE"), ("int8range", "INT8RANGE"), ("numrange", "NUMRANGE"),
    ("daterange", "DATERANGE"), ("tsrange", "TSRANGE"), ("tstzrange", "TSTZRANGE"),
    ("int4multirange", "INT4MULTIRANGE"), ("int8multirange", "INT8MULTIRANGE"),
    ("nummultirange", "NUMMULTIRANGE"), ("datemultirange", "DATEMULTIRANGE"),
    ("tsmultirange", "TSMULTIRANGE"), ("tstzmultirange", "TSTZMULTIRANGE"),
    ("integer", "INTEGER"), ("bigint", "BIGINT"), ("smallint", "SMALLINT"),
    ("character varying", "VARCHAR"), ("character", "CHAR"), ("\"char\"", "TEXT"),
    ("name", "TEXT"), ("text", "TEXT"), ("numeric", "NUMERIC"), ("float", "FLOAT"),
    ("real", "REAL"), ("inet", "INET"), ("cidr", "CIDR"), ("citext", "CITEXT"), ("uuid", "UUID"),
    ("bit", "BIT"), ("bit varying", "BIT"), ("macaddr", "MACADDR"), ("macaddr8", "MACADDR8"),
    ("money", "MONEY"), ("oid", "OID"), ("regclass", "REGCLASS"),
    ("double precision", "DOUBLE_PRECISION"), ("timestamp", "TIMESTAMP"),
    ("timestamp with time zone", "TIMESTAMP"), ("timestamp without time zone", "TIMESTAMP"),
    ("time with time zone", "TIME"), ("time without time zone", "TIME"), ("date", "DATE"),
    ("time", "TIME"), ("bytea", "BYTEA"), ("boolean", "BOOLEAN"), ("interval", "INTERVAL"),
    ("tsvector", "TSVECTOR")]

/-- The map of a database, by the name of its dialect. -/
def ofDialect? : String → Option TypeMap
  | "sqlite" => some sqlite
  | "mysql" => some mysql
  | "postgresql" => some postgresql
  | _ => none

end TypeMap

/-! ### Several drivers -/

/-- The type maps of several drivers. -/
structure DriverTypes where
  maps : List (String × TypeMap)
  deriving Repr, Inhabited

namespace DriverTypes

/-- The type map of a driver, or the refusal when there is no such driver. -/
def get (d : DriverTypes) (driver : String) : Except SearchError TypeMap :=
  match d.maps.lookup driver with
  | some m => .ok m
  | none => .error (.unknownTable "*" driver)

/-- Makes names known to one driver. If no type can stand for one of them, it is an
impossible value and none of them becomes known. -/
def register (d : DriverTypes) (driver : String) (names : List String) :
    Except Failure DriverTypes :=
  match d.get driver with
  | .error e => .error (.refused e)
  | .ok m =>
    if names.all ColumnType.canReport then
      .ok ⟨d.maps.map fun e => if e.1 == driver then (driver, m.register names) else e⟩
    else .error (.fault .badValue)

end DriverTypes

end RelationalSearch
