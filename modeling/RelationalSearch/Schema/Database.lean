import RelationalSearch.Schema.Introspector
import RelationalSearch.Schema.TypeMap
import RelationalSearch.Text.Alphanumeric

/-!
# A database that is looked at

Tables are made from declarations, views from the text of a query. The type of a
column is what its declaration says in front of the first constraint; the driver
finds a type for it by its type map, and else by the letters that the name
contains. Names of tables are looked up without regard to ASCII case, and listed
in the order of their characters, tables before views.
-/

namespace RelationalSearch

/-! ### Declared types -/

namespace DeclaredType

/-- The words that end the type of a column. -/
def constraintWords : List String :=
  ["PRIMARY", "NOT", "NULL", "DEFAULT", "UNIQUE", "CHECK", "REFERENCES", "COLLATE", "CONSTRAINT",
   "GENERATED", "AS", "ON"]

/-- Whether a character can be part of a word. -/
def isWordChar (c : Char) : Bool := Text.isAlphanumericChar c || c == '_'

/-- The text in front of a closing parenthesis and the parenthesis. -/
def throughClosing : List Char → List Char
  | [] => []
  | c :: rest => if c == ')' then [c] else c :: throughClosing rest

/-- The type that a declaration begins with; `fuel` bounds its words. -/
def leading : (fuel : Nat) → List Char → List Char
  | 0, _ => []
  | fuel + 1, cs =>
    let gap := cs.takeWhile (·.isWhitespace)
    match cs.dropWhile (·.isWhitespace) with
    | '(' :: rest => gap ++ '(' :: throughClosing rest
    | rest =>
      let word := rest.takeWhile isWordChar
      if word.isEmpty then []
      else if constraintWords.contains (String.ofList (word.map Char.toUpper)) then []
      else gap ++ word ++ leading fuel (rest.dropWhile isWordChar)

/-- The type that a declaration begins with. -/
def ofDeclaration (declaration : String) : String :=
  let cs := declaration.toList
  String.ofList ((leading (cs.length + 1) cs).dropWhile (·.isWhitespace))

/-- Whether a text occurs in another one. -/
def occursIn (part : List Char) : List Char → Bool
  | [] => part.isEmpty
  | c :: rest => part.isPrefixOf (c :: rest) || occursIn part rest

/-- The standard type of a name. -/
def standardType (name : String) : ColumnType :=
  match TypeModel.standard.lookup name with
  | some t => .modelled t
  | none => .untyped

/-- The type for a name that a type map does not know, by the letters in it. -/
def byLetters (name : List Char) : ColumnType :=
  let contains := fun (parts : List String) => parts.any fun p => occursIn p.toList name
  if contains ["INT"] then standardType "INTEGER"
  else if contains ["CHAR", "CLOB", "TEXT"] then standardType "TEXT"
  else if name.isEmpty || contains ["BLOB"] then .untyped
  else if contains ["REAL", "FLOA", "DOUB"] then standardType "REAL"
  else standardType "NUMERIC"

/-- The type that a driver finds for a declared one: the words and spaces in front
decide. -/
def resolve (types : TypeMap) (declared : String) : ColumnType :=
  let name := (Text.toCapital declared).toList.takeWhile fun c => isWordChar c || c == ' '
  (types.find? (String.ofList name)).getD (byLetters name)

end DeclaredType

/-! ### Tables and views -/

/-- A table with the types that its columns are declared with. -/
structure DeclaredTable where
  name : String
  columns : List (String × String)
  deriving DecidableEq, Repr, Inhabited

/-- A name without regard to ASCII case. -/
def foldedName (name : String) : String := String.ofList (name.toList.map Char.toLower)

/-- The table of a name. -/
def DeclaredTable.find? (tables : List DeclaredTable) (name : String) : Option DeclaredTable :=
  tables.find? fun t => foldedName t.name == foldedName name

/-- The declared type of a column. -/
def DeclaredTable.column? (t : DeclaredTable) (name : String) : Option (String × String) :=
  t.columns.find? fun c => foldedName c.1 == foldedName name

/-! ### The queries of views -/

namespace ViewQuery

/-- A part of a query. -/
inductive Token where
  /-- A word or a quoted name. -/
  | word (text : String) (quoted : Bool)
  /-- Any other sign. -/
  | sign (c : Char)
  deriving DecidableEq, Repr

/-- The parts of a query; `fuel` bounds their number. -/
def tokens : (fuel : Nat) → List Char → List Token
  | 0, _ => []
  | _, [] => []
  | fuel + 1, c :: rest =>
    if c.isWhitespace then tokens fuel rest
    else if c == '"' then
      .word (String.ofList (rest.takeWhile (· != '"'))) true
        :: tokens fuel ((rest.dropWhile (· != '"')).drop 1)
    else if DeclaredType.isWordChar c then
      .word (String.ofList ((c :: rest).takeWhile DeclaredType.isWordChar)) false
        :: tokens fuel ((c :: rest).dropWhile DeclaredType.isWordChar)
    else .sign c :: tokens fuel rest

/-- Whether a part is a word of the language. -/
def isWord (text : String) : Token → Bool
  | .word s false => foldedName s == text
  | _ => false

/-- The parts between commas. -/
def items : List Token → List (List Token)
  | [] => [[]]
  | t :: rest =>
    if t == .sign ',' then [] :: items rest
    else match items rest with
      | item :: more => (t :: item) :: more
      | [] => [[t]]

/-- The column of a table under a name of its own. -/
def renamed (table : DeclaredTable) (column : String) (name : Option String) :
    Option (String × String) :=
  (table.column? column).map fun c => (name.getD c.1, c.2)

/-- The columns that one item of a query selects from a table. -/
def columnsOf (table : DeclaredTable) (item : List Token) : Option (List (String × String)) :=
  let isAs := isWord "as"
  match item with
  | [.sign '*'] => some table.columns
  | [.word c _] => (renamed table c none).map ([·])
  | [.word _ _, .sign '.', .word c _] => (renamed table c none).map ([·])
  | [.word c _, .word n _] => (renamed table c (some n)).map ([·])
  | [.word c _, a, .word n _] => if isAs a then (renamed table c (some n)).map ([·]) else none
  | [.word _ _, .sign '.', .word c _, a, .word n _] =>
    if isAs a then (renamed table c (some n)).map ([·]) else none
  | item =>
    match item.reverse with
    | .word n _ :: a :: _ => if isAs a then some [(n, "")] else none
    | _ => none

/-- The columns that a query selects from one of several tables. -/
def columns? (tables : List DeclaredTable) (text : String) : Option (List (String × String)) := do
  let ts := tokens (text.length + 1) text.toList
  match ts with
  | first :: rest =>
    if !isWord "select" first then none
    else
      let selected := rest.takeWhile fun t => !isWord "from" t
      match (rest.dropWhile fun t => !isWord "from" t).drop 1 with
      | .word name _ :: _ =>
        let table ← DeclaredTable.find? tables name
        return (← (items selected).mapM (columnsOf table)).flatten
      | _ => none
  | [] => none

end ViewQuery

/-! ### Databases -/

/-- The tables and views of a database; the columns of a view whose query cannot
be followed are not known. -/
structure Database where
  tables : List DeclaredTable
  views : List (String × Option (List (String × String)))
  deriving Repr, Inhabited

namespace Database

/-- Whether names differ by more than ASCII case. -/
def allDifferent : List String → Bool
  | [] => true
  | n :: rest => !(rest.any fun m => foldedName m == foldedName n) && allDifferent rest

/-- Makes a database of declarations; tables need columns, and names must be
different. -/
def make (tables : List (String × List (String × String))) (views : List (String × String)) :
    Except Failure Database :=
  let names := tables.map Prod.fst ++ views.map Prod.fst
  if !allDifferent names
      || tables.any fun t => t.2.isEmpty || !allDifferent (t.2.map Prod.fst) then
    .error (.fault .refusedByDatabase)
  else
    let declared := tables.map fun t =>
      DeclaredTable.mk t.1 (t.2.map fun c => (c.1, DeclaredType.ofDeclaration c.2))
    let (_, views) := views.foldl
      (fun (known, views) v =>
        match ViewQuery.columns? known v.2 with
        | some columns => (known ++ [⟨v.1, columns⟩], views ++ [(v.1, some columns)])
        | none => (known, views ++ [(v.1, none)]))
      (declared, [])
    .ok ⟨declared, views⟩

/-- The names of tables and views, each in the order of their characters. -/
def listing (d : Database) : List String :=
  let sorted := fun (names : List String) => names.mergeSort fun a b => decide (a ≤ b)
  sorted (d.tables.map DeclaredTable.name) ++ sorted (d.views.map Prod.fst)

/-- The declared columns of a table or view, if there is one. -/
def columns? (d : Database) (name : String) :
    Option (Except Failure (List (String × String))) :=
  match DeclaredTable.find? d.tables name with
  | some t => some (.ok t.columns)
  | none =>
    (d.views.find? fun v => foldedName v.1 == foldedName name).map fun v =>
      match v.2 with
      | some columns => .ok columns
      | none => .error (.fault .refusedByDatabase)

/-- Whether a schema is the one that holds the tables: `none` when there is no
such schema at all. -/
def holdsTables? (schema : Option String) : Option Bool :=
  match schema.map foldedName with
  | none | some "main" => some true
  | some "temp" => some false
  | some _ => none

/-- The type map of a driver, as a reading. -/
def typesOf (driver : String) : Reading DriverTypes TypeMap := do
  let types ← get
  match types.get driver with
  | .ok m => return m
  | .error e => throw (.refused e)

/-- The introspector of a database; its state are the types that drivers know. -/
def introspector (d : Database) (schema : Option String) : Introspector DriverTypes where
  learn driver names := do
    let types ← get
    match types.register driver names with
    | .ok types => set types
    | .error e => throw e
  listTables driver := do
    let _ ← typesOf driver
    match holdsTables? schema with
    | some true => return d.listing
    | some false => return []
    | none => throw (.fault .refusedByDatabase)
  listColumns driver table := do
    let types ← typesOf driver
    match if holdsTables? schema = some true then d.columns? table else none with
    | none => throw (.refused (.unknownTable table driver))
    | some (.error e) => throw e
    | some (.ok columns) =>
      return columns.map fun c => ⟨c.1, DeclaredType.resolve types c.2⟩

end Database

end RelationalSearch
