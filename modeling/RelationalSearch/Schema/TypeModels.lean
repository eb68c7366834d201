import RelationalSearch.Schema.ColumnType

/-!
# The models of types

The models that drivers have, by vocabulary: the general names, the standard
ones in capitals, and those that single databases add. A name in capitals is
reported in small letters; the general names are reported in their own spelling.
-/

namespace RelationalSearch.TypeModel

/-- A model that is reported under its name in small letters. -/
def plain (families : List TypeFamily) (names : List String) : List (String × TypeModel) :=
  names.map fun name => (name, ⟨Text.toSmall name, families⟩)

/-- The general names, with the names under which they are reported. -/
def general : List (String × TypeModel) :=
  [("BigInteger", ⟨"big_integer", [.integer]⟩), ("Boolean", ⟨"boolean", [.boolean]⟩),
   ("Date", ⟨"date", [.date]⟩), ("DateTime", ⟨"datetime", [.datetime]⟩),
   ("Double", ⟨"double", [.float, .numeric]⟩), ("Enum", ⟨"enum", [.enumerated, .string]⟩),
   ("Float", ⟨"float", [.float, .numeric]⟩), ("Integer", ⟨"integer", [.integer]⟩),
   ("Interval", ⟨"type_decorator", [.interval]⟩), ("LargeBinary", ⟨"large_binary", [.binary]⟩),
   ("MatchType", ⟨"matchtype", [.boolean]⟩), ("Numeric", ⟨"numeric", [.numeric]⟩),
   ("PickleType", ⟨"type_decorator", []⟩), ("SmallInteger", ⟨"small_integer", [.integer]⟩),
   ("String", ⟨"string", [.string]⟩), ("Text", ⟨"text", [.string]⟩),
   ("Time", ⟨"time", [.time]⟩), ("TupleType", ⟨"tuple", []⟩),
   ("Unicode", ⟨"unicode", [.string]⟩), ("UnicodeText", ⟨"unicode_text", [.string]⟩),
   ("UserDefinedType", ⟨"user_defined", []⟩), ("Uuid", ⟨"uuid", [.uuid]⟩)]

/-- The standard names. -/
def standard : List (String × TypeModel) :=
  plain [.array] ["ARRAY"]
    ++ plain [.integer] ["BIGINT", "INTEGER", "SMALLINT"]
    ++ [("INT", ⟨"integer", [.integer]⟩)]
    ++ plain [.binary] ["BINARY", "BLOB", "VARBINARY"]
    ++ plain [.boolean] ["BOOLEAN"]
    ++ plain [.string] ["CHAR", "CLOB", "NCHAR", "NVARCHAR", "TEXT", "VARCHAR"]
    ++ plain [.date] ["DATE"]
    ++ plain [.datetime] ["DATETIME", "TIMESTAMP"]
    ++ plain [.numeric] ["DECIMAL", "NUMERIC"]
    ++ plain [.float, .numeric] ["DOUBLE", "DOUBLE_PRECISION", "FLOAT", "REAL"]
    ++ plain [.json] ["JSON"]
    ++ plain [.time] ["TIME"]
    ++ plain [.uuid] ["UUID"]

/-- The names of PostgreSQL. -/
def postgresql : List (String × TypeModel) :=
  plain [.enumerated, .string] ["ENUM"]
    ++ plain [.binary] ["BYTEA"]
    ++ plain [.string] ["CITEXT"]
    ++ plain [.json] ["JSONB"]
    ++ plain [] ["BIT", "CIDR", "DATEMULTIRANGE", "DATERANGE", "HSTORE", "INET", "INT4MULTIRANGE",
      "INT4RANGE", "INT8MULTIRANGE", "INT8RANGE", "INTERVAL", "JSONPATH", "MACADDR", "MACADDR8",
      "MONEY", "NUMMULTIRANGE", "NUMRANGE", "OID", "REGCLASS", "REGCONFIG", "TSMULTIRANGE",
      "TSQUERY", "TSRANGE", "TSTZMULTIRANGE", "TSTZRANGE", "TSVECTOR"]

/-- The names of MySQL. -/
def mysql : List (String × TypeModel) :=
  plain [.enumerated, .string] ["ENUM"]
    ++ plain [.integer] ["MEDIUMINT", "TINYINT"]
    ++ plain [.string] ["LONGTEXT", "MEDIUMTEXT", "SET", "TINYTEXT"]
    ++ plain [] ["BIT", "LONGBLOB", "MEDIUMBLOB", "TINYBLOB", "YEAR"]

/-- The names of SQL Server. -/
def sqlServer : List (String × TypeModel) :=
  plain [.boolean] ["BIT"]
    ++ plain [.integer] ["TINYINT"]
    ++ plain [.datetime] ["DATETIME2", "DATETIMEOFFSET", "SMALLDATETIME"]
    ++ plain [.float, .numeric] ["DOUBLE_PRECISION"]
    ++ plain [.binary] ["IMAGE"]
    ++ plain [.string] ["NTEXT", "XML"]
    ++ plain [.uuid] ["UNIQUEIDENTIFIER"]
    ++ plain [] ["MONEY", "ROWVERSION", "SMALLMONEY", "SQL_VARIANT", "TIMESTAMP"]

/-- The names of Oracle. -/
def oracle : List (String × TypeModel) :=
  plain [.binary] ["BFILE"]
    ++ plain [.float, .numeric] ["BINARY_DOUBLE", "BINARY_FLOAT"]
    ++ plain [.datetime] ["DATE"]
    ++ plain [.string] ["LONG", "NCLOB", "NVARCHAR2", "VARCHAR2"]
    ++ plain [.integer, .numeric] ["NUMBER"]
    ++ plain [] ["INTERVAL", "RAW", "ROWID", "VECTOR"]

/-- The names that a vocabulary adds to the standard ones. -/
def vocabulary : String → List (String × TypeModel)
  | "pg" => postgresql
  | "mysql" => mysql
  | "mssql" => sqlServer
  | "oracle" => oracle
  | _ => general

/-- The model of a name in a vocabulary, or its standard model. -/
def find? (vocabularyName name : String) : Option TypeModel :=
  (vocabulary vocabularyName).lookup name <|> standard.lookup name

end RelationalSearch.TypeModel
