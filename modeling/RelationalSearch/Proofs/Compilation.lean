import RelationalSearch.Proofs.Graph
import RelationalSearch.Proofs.Hop
import RelationalSearch.Service

/-!
# A compiled search, step by step

What a compiled search is made of, without the lines that are logged on the way:
the request is prepared, the walk from its entity gives the predicate and the
visited entities, and the table of the entity is needed for the order and the
range of time (`RelationalSearch.Compiler.compile_eq`). The question whether there
is anything to search for is a look-ahead from the entity
(`RelationalSearch.Compiler.finds_eq`).

A service that gets its tables from a provider compiles against the tables that
the provider answers with (`RelationalSearch.Service.value_compile`).
-/

namespace RelationalSearch

theorem Catalog.exists_table_of_hasTable {catalog : Catalog} {name : String}
    (h : catalog.hasTable name = true) : ∃ table, catalog.table name = .ok table := by
  obtain ⟨table, htable⟩ := Option.isSome_iff_exists.mp h
  exact ⟨table, by rw [Catalog.table, htable]⟩

/-! ### The visited entities -/

/-- Noting the names of a list one by one gives each of them once. -/
theorem foldl_noteVisit (names : List String) {visited : List String} (h : visited.Nodup) :
    (names.foldl noteVisit visited).Nodup ∧
      ∀ x, x ∈ names.foldl noteVisit visited ↔ x ∈ visited ∨ x ∈ names := by
  induction names generalizing visited with
  | nil => exact ⟨h, fun x => (or_iff_left List.not_mem_nil).symm⟩
  | cons name names ih =>
    obtain ⟨hnodup, hmem⟩ := ih (SearchContext.nodup_noteVisit h name)
    refine ⟨hnodup, fun x => ?_⟩
    rw [List.foldl_cons, hmem, SearchContext.mem_noteVisit, List.mem_cons, or_comm (a := x = name),
      or_assoc]

theorem mem_sortedNames {names : List String} {x : String} : x ∈ sortedNames names ↔ x ∈ names := by
  rw [sortedNames, List.mem_mergeSort]
  exact ((foldl_noteVisit names List.nodup_nil).2 x).trans (or_iff_right List.not_mem_nil)

theorem nodup_sortedNames (names : List String) : (sortedNames names).Nodup :=
  (List.mergeSort_perm _ _).nodup_iff.mpr (foldl_noteVisit names List.nodup_nil).1

namespace Compiler

variable (c : Compiler) (catalog : Catalog) (entity : String) (source : Source)
  (options : SearchOptions) (clock : Clock)

/-- The walk that a request asks for. -/
def requestWalk (request : Request) : Except SearchError Walked :=
  ((c.context options request.requested catalog).walk (c.settings.maxDepth + 1) request.target
    request.bag options.ignoreBroad []).value

/-- The range of time that a request asks for, on a table. -/
def requestRange (request : Request) (table : Table) : Except Failure (Option TimeRange) :=
  (TimeRange.resolve (c.scopedTo [] "" false request.bag)
    (orUsual request.target.spec.timeColumn c.settings.defaultTimeColumn)
    (orUsual request.target.spec.timeZone c.settings.defaultTimeZone) table.columnNames clock).value

/-- The compiled search of a request, put together from its parts. -/
def assembled (request : Request) (walked : Walked) (table : Table)
    (timeRange : Option TimeRange) : CompiledSearch :=
  ⟨request.target.name, request.target.table, walked.predicate,
    (SortKey.resolve (c.scopedTo [] "" false request.bag) table.columnNames
      request.target.spec.nullsFirst).value, timeRange, sortedNames walked.visited⟩

/-- **The parts of a compiled search**, in the order in which they are made. -/
theorem compile_eq :
    c.compile catalog entity source options clock =
      (c.prepare entity source).bind fun request =>
        ((c.requestWalk catalog options request).mapError .refused).bind fun walked =>
          ((catalog.table request.target.table).mapError .refused).bind fun table =>
            (c.requestRange clock request table).bind fun timeRange =>
              .ok (c.assembled request walked table timeRange) := by
  rw [compile]
  refine congrArg (Except.bind _) (funext fun request => ?_)
  simp only [compileRequest, walkRequest, Narrated.value_bind, Narrated.value_say,
    Narrated.value_timed, Narrated.value_pure, Narrated.value_mapError, Narrated.value_silent,
    Narrated.value_ofLogged, Narrated.value_of]
  change Except.bind (Except.bind ((c.requestWalk catalog options request).mapError
    Failure.refused) fun walked => .ok (catalog, walked)) _ = _
  cases (c.requestWalk catalog options request).mapError Failure.refused with
  | error e => rfl
  | ok walked => rfl

/-- The question whether there is anything to search for is a look-ahead. -/
theorem finds_eq (ignoreBroad : Bool) :
    c.finds catalog entity source ignoreBroad =
      (c.prepareQuestion entity source ignoreBroad).bind fun request =>
        ((c.context SearchOptions.plain request.requested catalog).findsAny []
          (c.settings.maxDepth + 1) request.target request.bag ignoreBroad []).mapError .refused :=
  rfl

variable {c catalog entity source options clock}

/-- A prepared request is for a registered entity, with the bag of the source. -/
theorem parts_of_prepare {request : Request} (h : c.prepare entity source = .ok request) :
    c.registry.get entity = .ok request.target ∧
      source.searchInput c.settings.broadKey = .ok request.bag ∧
        requestedRelations request.bag = .ok request.requested := by
  obtain ⟨target, htarget, h⟩ := exists_of_bind_ok h
  obtain ⟨bag, hbag, h⟩ := exists_of_bind_ok h
  obtain ⟨requested, hrequested, h⟩ := exists_of_bind_ok h
  cases h
  exact ⟨ok_of_mapError_ok htarget, hbag, ok_of_mapError_ok hrequested⟩

/-- A prepared question is for a registered entity, with those parameters of the
source that say something. -/
theorem parts_of_prepareQuestion {ignoreBroad : Bool} {request : Request}
    (h : c.prepareQuestion entity source ignoreBroad = .ok request) :
    c.registry.get entity = .ok request.target ∧
      ∃ bag, source.toBag = .ok bag ∧ request.bag = c.scopedTo [] "" ignoreBroad bag := by
  obtain ⟨target, htarget, h⟩ := exists_of_bind_ok h
  obtain ⟨bag, hbag, h⟩ := exists_of_bind_ok h
  obtain ⟨requested, hrequested, h⟩ := exists_of_bind_ok h
  cases h
  exact ⟨ok_of_mapError_ok htarget, bag, hbag, rfl⟩

/-- A scope without a name has no keys but those of the bag. -/
theorem mem_keys_of_scopedTo {excluded : List String} {ignoreBroad : Bool} {bag : Bag}
    {key : String} (h : key ∈ (c.scopedTo excluded "" ignoreBroad bag).keys) : key ∈ bag.keys := by
  rcases Scope.mem_keys_apply h with ⟨hbag, -⟩ | ⟨-, -, hbag⟩
  · exact hbag
  · exact hbag

/-- **A compiled search has all its parts.** -/
theorem parts_of_compile {result : CompiledSearch}
    (h : c.compile catalog entity source options clock = .ok result) :
    ∃ request walked table timeRange, c.prepare entity source = .ok request ∧
      c.requestWalk catalog options request = .ok walked ∧
      catalog.table request.target.table = .ok table ∧
      c.requestRange clock request table = .ok timeRange ∧
      result = c.assembled request walked table timeRange := by
  rw [compile_eq] at h
  obtain ⟨request, hrequest, h⟩ := exists_of_bind_ok h
  obtain ⟨walked, hwalked, h⟩ := exists_of_bind_ok h
  obtain ⟨table, htable, h⟩ := exists_of_bind_ok h
  obtain ⟨timeRange, hrange, h⟩ := exists_of_bind_ok h
  cases h
  exact ⟨request, walked, table, timeRange, hrequest, ok_of_mapError_ok hwalked,
    ok_of_mapError_ok htable, hrange, rfl⟩

/-- Out of its parts a search is compiled. -/
theorem compile_of_parts {request : Request} {walked : Walked} {table : Table}
    {timeRange : Option TimeRange} (hrequest : c.prepare entity source = .ok request)
    (hwalked : c.requestWalk catalog options request = .ok walked)
    (htable : catalog.table request.target.table = .ok table)
    (hrange : c.requestRange clock request table = .ok timeRange) :
    c.compile catalog entity source options clock =
      .ok (c.assembled request walked table timeRange) := by
  rw [compile_eq, hrequest, Except.bind, hwalked, htable]
  simp only [Except.mapError, Except.bind, hrange]

end Compiler

/-- **A service compiles against the tables of its provider.** -/
theorem Service.value_compile {σ : Type} (s : Service σ) (state : ProviderState σ)
    (entity : String) (source : Source) (options : SearchOptions) (clock : Clock) :
    (s.compile state entity source options clock).1.value =
      (s.compiler.prepare entity source).bind fun _ =>
        (s.provider.catalog s.compiler.driver state).1.value.bind fun catalog =>
          s.compiler.compile catalog entity source options clock := by
  cases hrequest : s.compiler.prepare entity source with
  | error e =>
    rw [Service.compile, hrequest]
    rfl
  | ok request =>
    simp only [Service.compile, Service.answer, hrequest, if_true, Except.bind, Compiler.compile]
    generalize (s.provider.catalog s.compiler.driver state).1 = catalog
    simp only [Compiler.compileRequest, Compiler.walkRequest, Narrated.value_bind,
      Narrated.value_say, Narrated.value_timed, Narrated.value_pure]
    cases catalog.value with
    | error e => rfl
    | ok tables => rfl

/-! ### A pond

A small set of entities with a circle of relations, for examples: a pond has
fish, a fish has a species, and a species has fish again. -/

namespace Pond

def catalog : Catalog :=
  ⟨"main", [⟨"ponds", "main", [⟨"name", "string", true⟩, ⟨"depth", "integer", false⟩]⟩,
    ⟨"fishes", "main", [⟨"name", "string", true⟩]⟩, ⟨"kinds", "main", [⟨"label", "string", true⟩]⟩]⟩

def pond : Entity :=
  ⟨"Pond", "ponds", ⟨[], ["name"], ["fish"], [], none, none, false⟩,
    [("fish", ⟨"fish", "Fish", "id", "pond_id", none⟩)]⟩

def fish : Entity :=
  ⟨"Fish", "fishes", ⟨[], ["name"], ["species"], [], none, none, false⟩,
    [("species", ⟨"species", "Species", "species_id", "id", none⟩)]⟩

def species : Entity :=
  ⟨"Species", "kinds", ⟨[], ["label"], ["fish"], [], none, none, false⟩,
    [("fish", ⟨"fish", "Fish", "id", "species_id", none⟩)]⟩

def registry : Registry := ⟨[pond, fish, species]⟩

def compiler : Compiler := ⟨registry, "main", Settings.usual, "q"⟩

theorem scopesNamed : registry.ScopesNamed := by
  rw [Registry.ScopesNamed]
  decide +kernel

/-- A request whose first key goes round the circle. -/
def addressed : Source :=
  .value (.map [(.str "fish_species_fish_name", .str "koi"), (.str "depth", .int 3)])

/-- The same request with one more key in front. -/
def furtherAddressed : Source :=
  .value (.map [(.str "fish_name", .str "shubunkin"), (.str "fish_species_fish_name", .str "koi"),
    (.str "depth", .int 3)])

/-- The broad-search parameter is overlooked, and nothing else is switched on. -/
def ignoring : SearchOptions := ⟨false, true, false, false⟩

/-- A broad search goes into every relation, and nothing else is switched on. -/
def following : SearchOptions := ⟨true, false, false, false⟩

/-- A day in spring, at midnight; the system is at home in universal time. -/
def clock : Clock := ⟨⟨⟨⟨2024, 5, 1⟩, TimeOfDay.midnight⟩, none⟩, .ok 0, ⟨⟨2024, 5, 1⟩, 2024⟩⟩

end Pond

end RelationalSearch
