import RelationalSearch.Text.Blank
import RelationalSearch.Text.CaseMapping

/-!
# Settings

What a search takes from its surroundings: the key of the broad-search
parameter, the drivers that may be searched, how columns are classified for each
driver, how deep relations are followed, and the usual column and zone of time
ranges. The broad-search key is never blank and the depth never zero.
-/

namespace RelationalSearch

/-- The surroundings of a search. -/
structure Settings where
  /-- The key of the broad-search parameter. -/
  broadKey : String
  /-- The drivers that may be searched; without any, all may. -/
  allowedDrivers : List String
  /-- The categories that are not compared as texts, by driver. -/
  nonStringCategories : List (String × List String)
  /-- The categories of types or single columns that go before all others, by
  driver. -/
  typeOverrides : List (String × List (String × String))
  /-- How many relations may follow one another. -/
  maxDepth : Nat
  defaultTimeZone : String
  defaultTimeColumn : String
  logLevel : String
  broadKey_nonblank : Text.isBlank broadKey = false
  maxDepth_pos : 0 < maxDepth
  deriving Repr

namespace Settings

/-- The categories that are not compared as texts for drivers without a list of
their own. -/
def usualNonString : List String :=
  ["array", "binary", "boolean", "date", "datetime", "float", "integer", "interval", "json",
   "numeric", "time", "uuid", "geometry", "geometrycollection", "point", "multipoint", "polygon",
   "multipolygon"]

/-- The overrides that go with one driver from the start. -/
def usualOverrides : List (String × List (String × String)) :=
  [("mysql",
    [("linestring", "string"), ("multilinestring", "string"), ("enum", "string"),
     ("geometry", "float"), ("geometrycollection", "float"), ("point", "float"),
     ("multipoint", "float"), ("polygon", "float"), ("multipolygon", "float")])]

/-- The settings of a search that nobody has set up. -/
def usual : Settings where
  broadKey := "q"
  allowedDrivers := []
  nonStringCategories := []
  typeOverrides := usualOverrides
  maxDepth := 16
  defaultTimeZone := "UTC"
  defaultTimeColumn := "created_at"
  logLevel := "WARNING"
  broadKey_nonblank := by decide +kernel
  maxDepth_pos := by decide

instance : Inhabited Settings := ⟨usual⟩

/-- The categories of a driver that are not compared as texts. -/
def nonStringFor (s : Settings) (driver : String) : List String :=
  (s.nonStringCategories.lookup driver).getD usualNonString

/-- Stores a text under a key: a known key keeps its place. -/
def putText : List (String × String) → String → String → List (String × String)
  | [], key, value => [(key, value)]
  | e :: rest, key, value =>
    if e.1 == key then (key, value) :: rest else e :: putText rest key value

/-- The overrides of a driver in small letters; of keys that differ in case
alone the last one counts. -/
def overridesFor (s : Settings) (driver : String) : List (String × String) :=
  ((s.typeOverrides.lookup driver).getD []).foldl
    (fun table e => putText table (Text.toSmall e.1) (Text.toSmall e.2)) []

/-- Whether a driver may be searched. -/
def allows (s : Settings) (driver : String) : Bool :=
  s.allowedDrivers.isEmpty || s.allowedDrivers.contains driver

end Settings

end RelationalSearch
