import RelationalSearch.Params.Source
import RelationalSearch.Predicate.Text
import RelationalSearch.Search.Compiled
import RelationalSearch.Search.Walk

/-!
# Compiling a search

The ways to ask for a search: over an entity with all its relations
(`Compiler.compile`), over an entity by one relation (`Compiler.compileRelation`),
by one or several columns of a relation (`Compiler.ofRelation`), and the question
whether there is anything to search for (`Compiler.finds`).

Each of them first prepares the request, which needs no table, and then looks at
the tables of the driver. The tables are handed in as a computation, because they
may have to be listed first, and that may fail.
-/

namespace RelationalSearch

/-- Whether a value of a bag counts as given: not nothing, false, zero or empty. -/
def Value.isTruthy : Value → Bool
  | .null => false
  | .bool b => b
  | .int n => n != 0
  | .float x => !x.equalsInt 0
  | .str s => !s.isEmpty
  | .list items => !items.isEmpty
  | .tuple items => !items.isEmpty
  | .map entries => !entries.isEmpty
  | .bag entries => !entries.isEmpty
  | .bytes octets => !octets.isEmpty
  | _ => true

/-- The parameter by which a request names relations for a broad search. -/
def broadRelationsKey : String := "q_relations"

/-- The relations that a request names for a broad search: a text, or the texts
among several values. -/
def requestedRelations (bag : Bag) : Except Fault (List String) :=
  match bag.get broadRelationsKey with
  | .str s => .ok (if s.isEmpty then [] else [s])
  | v =>
    if !v.isTruthy then .ok []
    else match Bag.members? v with
      | some vs => .ok (vs.filterMap Value.text?)
      | none => .error .wrongKind

/-- What is set up once for many searches. -/
structure Compiler where
  registry : Registry
  driver : String
  settings : Settings
  /-- A column of this name is not searchable. -/
  columnAlias : String
  deriving Repr, Inhabited

namespace Compiler

/-- The surroundings of a search. -/
def context (c : Compiler) (options : SearchOptions) (requested : List String)
    (catalog : Catalog) : SearchContext where
  registry := c.registry
  catalog := catalog
  broadKey := c.settings.broadKey
  columnAlias := c.columnAlias
  maxDepth := c.settings.maxDepth
  followRelations := options.followRelations
  forceOr := options.forceOr
  forceLike := options.forceLike
  requested := requested

/-- The parameters of a bag that say something. -/
def scopedTo (c : Compiler) (excluded : List String) (name : String) (ignoreBroad : Bool)
    (bag : Bag) : Bag :=
  Scope.apply ⟨excluded, name, ignoreBroad, c.settings.broadKey⟩ bag

/-! ### Searches over an entity -/

/-- A request for a search, ready to look at tables. -/
structure Request where
  target : Entity
  bag : Bag
  requested : List String

/-- Prepares a search over an entity. -/
def prepare (c : Compiler) (entity : String) (source : Source) : Except Failure Request := do
  let target ← (c.registry.get entity).mapError .refused
  let bag ← source.searchInput c.settings.broadKey
  let requested ← (requestedRelations bag).mapError .fault
  return ⟨target, bag, requested⟩

/-- A setting of an entity, or the usual one when it is missing or empty. -/
def orUsual (own : Option String) (usual : String) : String :=
  match own with
  | some s => if s.isEmpty then usual else s
  | none => usual

/-- The predicate of a request. -/
def walkRequest (c : Compiler) (options : SearchOptions) (request : Request)
    (catalog : Narrated Failure Catalog) : Narrated Failure (Catalog × Walked) := do
  let tables ← catalog
  let walked ← ((c.context options request.requested tables).walk (c.settings.maxDepth + 1)
    request.target request.bag options.ignoreBroad []).mapError .refused
  return (tables, walked)

/-- Compiles a prepared search. -/
def compileRequest (c : Compiler) (options : SearchOptions) (clock : Clock)
    (request : Request) (catalog : Narrated Failure Catalog) :
    Narrated Failure CompiledSearch := do
  let target := request.target
  Narrated.say (.debug ("Compiling search for " ++ entityMarkup target.name))
  let (tables, walked) ← Narrated.timed ("Search compilation for " ++ target.name)
    (c.walkRequest options request catalog)
  let top := c.scopedTo [] "" false request.bag
  let table ← Narrated.silent ((tables.table target.table).mapError .refused)
  let sort ← Narrated.ofLogged
    (SortKey.resolve top table.columnNames target.spec.nullsFirst)
  let range := TimeRange.resolve top (orUsual target.spec.timeColumn c.settings.defaultTimeColumn)
    (orUsual target.spec.timeZone c.settings.defaultTimeZone) table.columnNames clock
  let timeRange ← Narrated.of range.lines range.value
  return ⟨target.name, target.table, walked.predicate, sort, timeRange,
    sortedNames walked.visited⟩

/-! ### Searches by one relation -/

/-- A request for a search by one relation, ready to look at tables. -/
structure RelationRequest where
  source : Entity
  relation : Relation
  target : Entity
  /-- The parameters of the relation. -/
  bag : Bag
  requested : List String

/-- Prepares a search by one relation; its parameters stand under a name, which is
the relation's scope key unless another one is given. -/
def prepareRelation (c : Compiler) (entity relation : String) (source : Source)
    (name : Option String) (ignoreBroad : Bool) : Except Failure RelationRequest := do
  let owner ← (c.registry.get entity).mapError .refused
  let (declared, target) ← (c.registry.relation owner relation).mapError .refused
  let bag ← source.toBag
  let requested ← (requestedRelations bag).mapError .fault
  let inner := c.scopedTo [] (name.getD (scopeKey relation)) ignoreBroad bag
  return ⟨owner, declared, target, inner, requested⟩

/-- Compiles a prepared search by one relation. Without parameters for the
relation there is nothing to look for, and no table is looked at. -/
def compileRelationRequest (c : Compiler) (options : SearchOptions) (request : RelationRequest)
    (catalog : Narrated Failure Catalog) : Narrated Failure CompiledSearch :=
  let owner := request.source
  let result : Group → List String → CompiledSearch := fun predicate visited =>
    ⟨owner.name, owner.table, predicate, [], none, sortedNames visited⟩
  if request.bag.isEmpty then pure (result Group.empty [owner.name])
  else do
    let tables ← catalog
    let walked ← ((c.context { options with followRelations := false } request.requested tables).walk
      c.settings.maxDepth request.target request.bag options.ignoreBroad [owner.name]).mapError
        .refused
    let join := Group.related request.relation request.target.table walked.predicate
    return result (Group.of .and [join]) walked.visited

/-! ### Searches by columns of a relation -/

/-- The texts by which columns are named: one text, or several. -/
def keysOf (v : Value) : Except Failure (List Value) :=
  match v with
  | .str _ => .ok [v]
  | v =>
    match Bag.members? v with
    | some vs => if vs.all Value.isKey then .ok vs else .error (.fault .wrongKind)
    | none => .error (.fault .wrongKind)

/-- Prepares a search by columns of a relation, all of which are compared with one
value. -/
def prepareColumns (c : Compiler) (entity relation : String) (key value : Value) :
    Except Failure RelationRequest := do
  let owner ← (c.registry.get entity).mapError .refused
  let (declared, target) ← (c.registry.relation owner relation).mapError .refused
  let keys ← keysOf key
  let bag ← (Bag.ofTable (Value.ofEntries (keys.map fun k => (k, value)))).mapError .refused
  return ⟨owner, declared, target, c.scopedTo target.spec.excludedKeys "" false bag, []⟩

/-- Compiles a prepared search by columns of a relation. -/
def compileColumnsRequest (c : Compiler) (forceOr : Bool) (request : RelationRequest)
    (catalog : Narrated Failure Catalog) : Narrated Failure CompiledSearch := do
  let owner := request.source
  let target := request.target
  let tables ← catalog
  let table ← Narrated.silent ((tables.table target.table).mapError .refused)
  let inner := buildPredicate table
    (Catalog.searchable table target.spec.excludedKeys c.columnAlias) target.spec.likeKeys
    request.bag ⟨false, forceOr, false, c.settings.broadKey⟩
  let join := Group.related request.relation target.table inner
  return ⟨owner.name, owner.table, Group.of .and [join], [], none,
    sortedNames [owner.name, target.name]⟩

/-! ### Whether there is anything to search for -/

/-- Prepares the question whether there is anything to search for. -/
def prepareQuestion (c : Compiler) (entity : String) (source : Source) (ignoreBroad : Bool) :
    Except Failure Request := do
  let target ← (c.registry.get entity).mapError .refused
  let bag ← source.toBag
  let inner := c.scopedTo [] "" ignoreBroad bag
  let requested ← (requestedRelations inner).mapError .fault
  return ⟨target, inner, requested⟩

/-- Whether a prepared request finds anything in an entity or in its relations. -/
def findsRequest (c : Compiler) (ignoreBroad : Bool) (request : Request)
    (catalog : Narrated Failure Catalog) : Narrated Failure Bool := do
  let tables ← catalog
  Narrated.silent (((c.context SearchOptions.plain request.requested tables).findsAny []
    (c.settings.maxDepth + 1) request.target request.bag ignoreBroad []).mapError .refused)

/-! ### Requests against listed tables -/

/-- Compiles a search over an entity and its relations. -/
def compile (c : Compiler) (catalog : Catalog) (entity : String) (source : Source)
    (options : SearchOptions) (clock : Clock) : Except Failure CompiledSearch := do
  let request ← c.prepare entity source
  (c.compileRequest options clock request (pure catalog)).value

/-- The same search with the lines that it logs. -/
def narrate (c : Compiler) (catalog : Catalog) (entity : String) (source : Source)
    (options : SearchOptions) (clock : Clock) : Narrated Failure CompiledSearch := do
  let request ← Narrated.silent (c.prepare entity source)
  c.compileRequest options clock request (pure catalog)

theorem value_narrate (c : Compiler) (catalog : Catalog) (entity : String) (source : Source)
    (options : SearchOptions) (clock : Clock) :
    (c.narrate catalog entity source options clock).value =
      c.compile catalog entity source options clock := by
  rw [narrate, Narrated.value_bind, Narrated.value_silent]
  rfl

/-- Compiles a search over an entity and its relations, with a log that its lines go to. -/
def compileOn (c : Compiler) (log : Log) (catalog : Catalog) (entity : String) (source : Source)
    (options : SearchOptions) (clock : Clock) : Except Failure CompiledSearch :=
  ((c.narrate catalog entity source options clock).through log).value

/-- A log that fails over nothing changes nothing. -/
theorem compileOn_patient (c : Compiler) (catalog : Catalog) (entity : String) (source : Source)
    (options : SearchOptions) (clock : Clock) :
    c.compileOn Log.patient catalog entity source options clock =
      c.compile catalog entity source options clock := by
  rw [compileOn, Narrated.through_patient, value_narrate]

/-- Compiles a search over an entity by one relation. -/
def compileRelation (c : Compiler) (catalog : Catalog) (entity relation : String)
    (source : Source) (name : Option String) (options : SearchOptions) :
    Except Failure CompiledSearch := do
  let request ← c.prepareRelation entity relation source name options.ignoreBroad
  (c.compileRelationRequest options request (pure catalog)).value

/-- Compiles a search over an entity by columns of a relation. -/
def ofRelation (c : Compiler) (catalog : Catalog) (entity relation : String)
    (key value : Value) (forceOr : Bool) : Except Failure CompiledSearch := do
  let request ← c.prepareColumns entity relation key value
  (c.compileColumnsRequest forceOr request (pure catalog)).value

/-- Whether there is anything to search for. -/
def finds (c : Compiler) (catalog : Catalog) (entity : String) (source : Source)
    (ignoreBroad : Bool) : Except Failure Bool := do
  let request ← c.prepareQuestion entity source ignoreBroad
  (c.findsRequest ignoreBroad request (pure catalog)).value

end Compiler

end RelationalSearch
