import RelationalSearch.Narrated
import RelationalSearch.Schema.Catalog
import RelationalSearch.Schema.Category
import RelationalSearch.Schema.Introspector
import RelationalSearch.Settings

/-!
# The provider of schemas

A provider classifies the tables of a driver when they are first asked for, and
from then on answers from what it has. An entry is made for the driver before it is
listed, so that nobody else lists it meanwhile, and holds the schema afterwards. A
driver that may not be searched is not listed at all; a listing that fails takes its
entry back.
-/

namespace RelationalSearch

/-- An entry for a driver. -/
inductive Listing where
  /-- The driver is being listed. -/
  | underWay
  /-- The driver has been listed. -/
  | done (catalog : Catalog)
  deriving DecidableEq, Repr, Inhabited

/-- What a provider has: the state of its introspector and an entry for every driver that
is listed. -/
structure ProviderState (σ : Type) where
  introspection : σ
  listings : List (String × Listing)
  deriving Repr

namespace ProviderState

variable {σ : Type}

/-- The entry for a driver. -/
def listing? (state : ProviderState σ) (driver : String) : Option Listing :=
  state.listings.lookup driver

/-- Takes back the entry for a driver. -/
def leave (state : ProviderState σ) (driver : String) : ProviderState σ :=
  { state with listings := state.listings.filter fun entry => entry.1 != driver }

/-- Makes an entry for a driver, in place of the one that it may have. -/
def enter (state : ProviderState σ) (driver : String) (listing : Listing) : ProviderState σ :=
  { state with listings := (driver, listing) :: (state.leave driver).listings }

/-- Ends the listing of a driver: the schema is entered, or the entry is taken back. -/
def conclude (state : ProviderState σ) (driver : String) :
    Except Failure Catalog → ProviderState σ
  | .ok c => state.enter driver (.done c)
  | .error _ => state.leave driver

theorem listing?_leave (state : ProviderState σ) (driver other : String) :
    (state.leave driver).listing? other =
      if driver = other then none else state.listing? other := by
  show List.lookup other (state.listings.filter fun entry => entry.1 != driver) = _
  rw [listing?]
  induction state.listings with
  | nil => simp
  | cons entry rest ih =>
    obtain ⟨name, listing⟩ := entry
    rw [List.lookup_cons]
    by_cases hleft : name = driver
    · rw [List.filter_cons_of_neg (by simpa using hleft), ih, hleft]
      by_cases hsame : driver = other
      · rw [if_pos hsame, if_pos hsame]
      · rw [if_neg hsame, if_neg hsame, beq_eq_false_iff_ne.mpr fun h => hsame h.symm]
    · rw [List.filter_cons_of_pos (by simpa using hleft), List.lookup_cons, ih]
      by_cases hname : other = name
      · have hsame : driver ≠ other := fun h => hleft (h.trans hname).symm
        rw [if_neg hsame, if_neg hsame, beq_iff_eq.mpr hname]
      · rw [beq_eq_false_iff_ne.mpr hname]

theorem listing?_enter (state : ProviderState σ) (driver : String) (listing : Listing)
    (other : String) :
    (state.enter driver listing).listing? other =
      if driver = other then some listing else state.listing? other := by
  have hleave := state.listing?_leave driver other
  rw [listing?] at hleave ⊢
  rw [enter, List.lookup_cons, hleave]
  by_cases hsame : driver = other
  · rw [if_pos hsame, if_pos hsame, hsame, beq_self_eq_true]
  · rw [if_neg hsame, if_neg hsame, beq_eq_false_iff_ne.mpr fun h => hsame h.symm]

end ProviderState

/-- A provider of schemas. -/
structure Provider (σ : Type) where
  introspector : Introspector σ
  settings : Settings
  /-- Where the lines of its listings go. -/
  log : Log

namespace Provider

variable {σ : Type}

/-- The classified form of one table. -/
def readTable (p : Provider σ) (driver table : String) : Reading σ Table := do
  let columns ← p.introspector.listColumns driver table
  match classifyTable table driver (p.settings.overridesFor driver)
      (p.settings.nonStringFor driver) columns with
  | .ok t => return t
  | .error e => throw (.refused e)

/-- The classified form of all tables. -/
def readTables (p : Provider σ) (driver : String) : Reading σ Catalog := do
  let names ← p.introspector.listTables driver
  let tables ← names.mapM (p.readTable driver)
  return ⟨driver, tables.foldl Catalog.putTable []⟩

/-- The names of types among a driver's overrides: all keys but those of single
columns. -/
def typeNames (p : Provider σ) (driver : String) : List String :=
  ((p.settings.overridesFor driver).map Prod.fst).filter fun name => !name.toList.contains '.'

/-- The line that tells how much has been listed. -/
def listedLine (catalog : Catalog) : LogLine :=
  .info ("Cached schema of " ++ toString catalog.tables.length ++ " tables for "
    ++ driverMarkup catalog.driver)

/-- Lists a driver. -/
def list (p : Provider σ) (driver : String) (state : σ) : Narrated Failure Catalog × σ :=
  if !p.settings.allows driver then
    (Narrated.silent (.error (.refused (.unknownTable "*" driver))), state)
  else
    match (p.introspector.learn driver (p.typeNames driver)).run.run state with
    | (.error e, state) => (Narrated.silent (.error e), state)
    | (.ok (), state) =>
      let (catalog, state) := (p.readTables driver).run.run state
      (do
        let catalog ← Narrated.timed ("Schema introspection for " ++ driver)
          (Narrated.silent catalog)
        Narrated.say (listedLine catalog)
        return catalog,
        state)

/-- The schema of a driver. Whoever finds the driver being listed waits for the listing;
calls that come one after the other never do, since each of them has ended its own. -/
def catalog (p : Provider σ) (driver : String) (state : ProviderState σ) :
    Narrated Failure Catalog × ProviderState σ :=
  match state.listing? driver with
  | some (.done c) => (pure c, state)
  | some .underWay => (Narrated.silent (.error (.fault .unfinished)), state)
  | none =>
    let entered := state.enter driver .underWay
    let (listed, introspection) := p.list driver entered.introspection
    let answer := listed.through p.log
    (answer, { entered with introspection }.conclude driver answer.value)

end Provider

/-- Whether a schema has a column. -/
def Catalog.hasColumn (c : Catalog) (table column : String) : Bool :=
  match c.find? table with
  | some t => t.hasColumn column
  | none => false

/-! ### Questions -/

/-- What a provider can be asked about a driver. -/
inductive SchemaQuestion where
  /-- All its tables. -/
  | schema
  /-- One of them. -/
  | table (name : String)
  /-- Whether it has a table. -/
  | hasTable (name : String)
  /-- Whether a table has a column. -/
  | hasColumn (table column : String)
  /-- The searchable columns of a table. -/
  | columnNames (table : String) (excluded : List String)
  deriving DecidableEq, Repr, Inhabited

/-- What a provider answers. -/
inductive SchemaReply where
  | schema (catalog : Catalog)
  | table (table : Table)
  | found (yes : Bool)
  | columns (names : List String)
  deriving DecidableEq, Repr, Inhabited

namespace SchemaQuestion

/-- The answer that a schema gives. -/
def answer (broadKey : String) (catalog : Catalog) : SchemaQuestion → Except SearchError SchemaReply
  | schema => .ok (.schema catalog)
  | table name => (catalog.table name).map .table
  | hasTable name => .ok (.found (catalog.hasTable name))
  | hasColumn name column => .ok (.found (catalog.hasColumn name column))
  | columnNames name excluded =>
    (catalog.table name).map fun t => .columns (Catalog.searchable t excluded broadKey)

/-- What a question says of a driver that cannot be listed. A question that looks a table
up takes any missing key for a missing table. -/
def failure (driver : String) (cause : Failure) : SchemaQuestion → Failure
  | table name | columnNames name _ =>
    if cause = .fault .missingKey then .refused (.unknownTable name driver) else cause
  | _ => cause

end SchemaQuestion

/-- Answers a question about a driver. -/
def Provider.ask {σ : Type} (p : Provider σ) (driver : String) (question : SchemaQuestion)
    (state : ProviderState σ) : Narrated Failure SchemaReply × ProviderState σ :=
  let (schema, state) := p.catalog driver state
  (do
    let catalog ← schema.mapError fun cause => question.failure driver cause
    Narrated.silent ((question.answer p.settings.broadKey catalog).mapError .refused),
    state)

end RelationalSearch
