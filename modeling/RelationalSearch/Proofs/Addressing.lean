import RelationalSearch.Proofs.Compilation
import RelationalSearch.Proofs.Graph
import RelationalSearch.Proofs.Leaves

/-!
# Which columns a key addresses

A key addresses a column through a chain of relations: it is written with the
scope names of the relations in front, one after the other. A key can be read in
several ways, because one scope name can be the beginning of another, and chains
can go round in a graph of entities that has cycles. The relation between keys and
columns is `RelationalSearch.Registry.Spells`.

The main statement is that a search without a broad parameter is addressed
exactly: the comparisons in its predicate, each with the relations of the
semi-joins around it, are those of the columns that its parameters address in
every possible reading, and no others. It is proved of a walk
(`RelationalSearch.SearchContext.located_walk`) and rests on two facts about one
entity: the parameters that reach a relation are those that address a column
through it (`RelationalSearch.SearchContext.asks_iff`), and a look-ahead that finds
nothing misses nothing
(`RelationalSearch.SearchContext.column_eq_of_findsAny`).

The broad-search parameter must hold no underscore: otherwise what is left of a
key on its way can have its name, and is dropped there. And there is one column
that is missed wherever a table has it: the one that has the name of the
broad-search parameter in the provider's own configuration, which the provider
keeps from searches. A compiler with another name for the parameter does not
compare it (`RelationalSearch.Compiler.not_located_columnAlias`).
-/

namespace RelationalSearch

namespace Registry

variable {r : Registry} {e : Entity}

/-- **A key addresses a column of an entity through relations**: it is the name of
the column with the scope names of the relations in front. -/
inductive Spells (r : Registry) : Entity → List Relation → String → Entity → String → Prop
  /-- A column of the entity itself. -/
  | here (e : Entity) (column : String) : Spells r e [] column e column
  /-- A column of the target of a relation, or beyond. -/
  | through {e target last : Entity} {name key column : String} {relation : Relation}
      {path : List Relation} : r.relation e name = .ok (relation, target) →
      Spells r target path key last column →
      Spells r e (relation :: path) (scopeName name ++ "_" ++ key) last column

/-- A key that goes through relations holds an underscore, so it is neither empty
nor a name without underscores. -/
theorem Spells.ne_of_underscore_free {path : List Relation} {key column s : String}
    {last : Entity} (h : r.Spells e path key last column) (hs : '_' ∉ s.toList)
    (hcolumn : column ≠ s) : key ≠ s := by
  cases h with
  | here => exact hcolumn
  | through =>
    rintro rfl
    exact hs (Scope.underscore_mem _ _)

end Registry

namespace SearchContext

variable {c : SearchContext} {e target last : Entity} {bag : Bag} {path : List Relation}
  {condition : Condition} {relation : Relation} {name key column : String} {value : Value}

/-! ### What parameters ask for -/

/-- A column takes part in the search of an entity: its table has it, and it is
neither excluded nor the broad-search parameter. -/
structure Searchable (c : SearchContext) (e : Entity) (table : Table) (column : String) :
    Prop where
  table_eq : c.table e = .ok table
  mem_columns : column ∈ table.columnNames
  not_excluded : column ∉ e.spec.excludedKeys
  ne_broad : column ≠ c.broadKey

/-- A value at a column of an entity contributes a comparison: it is among those that a
predicate holds for this column alone. -/
def Contributes (c : SearchContext) (e : Entity) (column : String) (value : Value)
    (condition : Condition) : Prop :=
  ∃ table, c.Searchable e table column ∧
    ([], condition) ∈ (buildPredicate table [column] e.spec.likeKeys (Bag.single column value)
      ⟨false, c.forceOr, c.forceLike, c.broadKey⟩).located

/-- **What the parameters of an entity ask for**: a comparison that the value of a
parameter contributes at a column that its key addresses, with the relations that
the key goes through. -/
def Asks (c : SearchContext) (e : Entity) (bag : Bag) (path : List Relation)
    (condition : Condition) : Prop :=
  ∃ key value last column, (key, value) ∈ bag.entries ∧ value.isBlank = false ∧
    c.registry.Spells e path key last column ∧ c.Contributes last column value condition

/-- What the parameters of an entity ask for at its own columns. -/
def AsksHere (c : SearchContext) (e : Entity) (bag : Bag) (condition : Condition) : Prop :=
  ∃ column value, (column, value) ∈ bag.entries ∧ value.isBlank = false ∧
    c.Contributes e column value condition

/-! ### One relation further -/

/-- **The names are such that keys can be read**: relations have a scope name, the
broad-search parameter holds no underscore, and columns have a name. -/
structure WellNamed (c : SearchContext) : Prop where
  scopes : c.registry.ScopesNamed
  broad : '_' ∉ c.broadKey.toList
  columns : ∀ t ∈ c.catalog.tables, "" ∉ t.columnNames

theorem Contributes.ne_empty (hc : c.WellNamed) (h : c.Contributes e column value condition) :
    column ≠ "" := by
  obtain ⟨table, hsearchable, -⟩ := h
  rintro rfl
  have htable : c.catalog.table e.table = .ok table := hsearchable.table_eq
  rw [Catalog.table] at htable
  split at htable
  next hfind =>
    cases htable
    exact hc.columns _ (List.mem_of_find?_eq_some hfind) hsearchable.mem_columns
  next => cases htable

theorem Contributes.ne_broad (h : c.Contributes e column value condition) :
    column ≠ c.broadKey := by
  obtain ⟨table, hsearchable, -⟩ := h
  exact hsearchable.ne_broad

/-- A value contributes comparisons of its own column. -/
theorem Contributes.column_eq (h : c.Contributes e column value condition) :
    condition.column = column := by
  obtain ⟨table, -, hl⟩ := h
  exact List.mem_singleton.mp (of_mem_located_buildPredicate hl).2

/-- **What parameters ask for is asked for at the entity's own columns or through
one of its relations**, there by the parameters that reach the relation. -/
theorem asks_iff (hc : c.WellNamed) (he : e ∈ c.registry.entities) :
    c.Asks e bag path condition ↔
      (path = [] ∧ c.AsksHere e bag condition) ∨
        ∃ name relation target rest, c.registry.relation e name = .ok (relation, target) ∧
          path = relation :: rest ∧
          c.Asks target (c.relationParameters bag name true) rest condition := by
  constructor
  · rintro ⟨key, value, last, column, hm, hblank, hspells, hcontributes⟩
    cases hspells with
    | here => exact Or.inl ⟨rfl, key, value, hm, hblank, hcontributes⟩
    | @through _ target _ name key _ relation rest hrelation hspells =>
      refine Or.inr ⟨name, relation, target, rest, hrelation, rfl, ?_⟩
      refine ⟨key, value, last, column, ?_, hblank, hspells, hcontributes⟩
      rw [mem_relationParameters, hc.scopes.written_eq he (Registry.of_relation hrelation).1]
      -- What is left of the key is neither empty nor the broad-search parameter, so it is kept.
      exact ⟨hm, hblank, hspells.ne_of_underscore_free hc.broad hcontributes.ne_broad,
        hspells.ne_of_underscore_free (by decide) (hcontributes.ne_empty hc)⟩
  · -- A key that reaches the relation is written with its scope name in front.
    rintro (⟨rfl, column, value, hm, hblank, hcontributes⟩ |
      ⟨name, relation, target, rest, hrelation, rfl, key, value, last, column, hm, hblank, hspells,
        hcontributes⟩)
    · exact ⟨column, value, e, column, hm, hblank, .here e column, hcontributes⟩
    · rw [mem_relationParameters,
        hc.scopes.written_eq he (Registry.of_relation hrelation).1] at hm
      exact ⟨_, value, last, column, hm.1, hblank, .through hrelation hspells, hcontributes⟩

theorem not_asks_of_isEmpty (h : bag.isEmpty = true) : ¬c.Asks e bag path condition := by
  rintro ⟨key, value, last, column, hm, -⟩
  rw [Bag.isEmpty_eq_false (Bag.mem_keys_of_mem hm)] at h
  cases h

/-- **A look-ahead that finds nothing misses nothing**: the parameters ask for no
comparison, at no distance, unless it is of the column that is kept from searches. -/
theorem column_eq_of_findsAny (hc : c.WellNamed) {left : Nat} {visited seen : List String}
    (he : e ∈ c.registry.entities) (honly : c.onlyBroad bag = false)
    (h : c.findsAny visited left e bag true seen = .ok false)
    (hasks : c.Asks e bag path condition) : condition.column = c.columnAlias := by
  induction left generalizing e bag path seen with
  | zero => cases h
  | succ left ih =>
    rcases of_findsAny_false h with ⟨-, hback⟩ | ⟨columns, hcolumns, hkeys, -, hbelow⟩
    · rw [honly] at hback
      cases hback
    · rcases (asks_iff hc he).mp hasks with ⟨-, column, value, hm, -, hcontributes⟩ |
        ⟨name, relation, target, rest, hrelation, -, hasks⟩
      · by_contra halias
        rw [hcontributes.column_eq] at halias
        obtain ⟨table, hsearchable, -⟩ := hcontributes
        refine hkeys column (Bag.mem_keys_of_mem hm) ?_
        rw [SearchContext.columns, hsearchable.table_eq] at hcolumns
        cases hcolumns
        refine List.mem_filter.mpr ⟨hsearchable.mem_columns, ?_⟩
        simp [hsearchable.not_excluded, halias]
      · have hstep := hbelow name (Registry.of_relation hrelation).1
        rw [findsBelow_of_relation hrelation] at hstep
        split at hstep
        next hempty => exact absurd hasks (not_asks_of_isEmpty hempty)
        next =>
          exact ih (Registry.registered_of_relation hrelation).mem onlyBroad_relationParameters
            hstep hasks

/-! ### The walk -/

/-- The predicate of an entity's own columns compares what is asked for there, except at
the column that is kept from searches. -/
theorem located_ownPredicate (hc : c.WellNamed) {own : Group}
    (h : c.ownPredicate e bag true = .ok own) :
    (path, condition) ∈ own.located ↔
      (path = [] ∧ c.AsksHere e bag condition) ∧ condition.column ≠ c.columnAlias := by
  rw [ownPredicate] at h
  cases htable : c.table e with
  | error err => rw [htable] at h; cases h
  | ok table =>
    rw [htable] at h
    cases h
    constructor
    · intro hlocated
      obtain ⟨rfl, hown⟩ := of_mem_located_buildPredicate hlocated
      obtain ⟨-, hsearched⟩ := List.mem_filter.mp hown
      rw [mem_located_buildPredicate rfl] at hlocated
      obtain ⟨column, value, hm, hcolumn, hl⟩ := hlocated
      obtain ⟨hbag, hexcluded, hblank, hbroad, -⟩ := mem_ownParameters.mp hm
      refine ⟨⟨rfl, column, value, hbag, hblank, table,
        ⟨htable, (List.mem_filter.mp hcolumn).1, hexcluded, hbroad⟩, ?_⟩, ?_⟩
      · exact (mem_located_buildPredicate_single rfl).mpr hl
      · exact bne_iff_ne.mp (Bool.and_eq_true_iff.mp hsearched).2
    · rintro ⟨⟨rfl, column, value, hm, hblank, hcontributes⟩, halias⟩
      have hempty := hcontributes.ne_empty hc
      rw [hcontributes.column_eq] at halias
      obtain ⟨table', hsearchable, hl⟩ := hcontributes
      obtain rfl : table = table' := Except.ok.inj (htable.symm.trans hsearchable.table_eq)
      rw [mem_located_buildPredicate rfl]
      refine ⟨column, value, ?_, ?_, (mem_located_buildPredicate_single rfl).mp hl⟩
      · exact mem_ownParameters.mpr
          ⟨hm, hsearchable.not_excluded, hblank, hsearchable.ne_broad, hempty⟩
      · refine List.mem_filter.mpr ⟨hsearchable.mem_columns, ?_⟩
        simp [hsearchable.not_excluded, halias]

/-- The comparisons that are asked for at an entity's own columns and through the
relations that have been dealt with. -/
def AsksSoFar (c : SearchContext) (e : Entity) (bag : Bag) (done : List String)
    (path : List Relation) (condition : Condition) : Prop :=
  (path = [] ∧ c.AsksHere e bag condition) ∨
    ∃ name ∈ done, ∃ relation target rest, c.registry.relation e name = .ok (relation, target) ∧
      path = relation :: rest ∧ c.Asks target (c.relationParameters bag name true) rest condition

/-- With one more relation, what is asked for through it comes in addition. -/
theorem asksSoFar_append {done : List String}
    (hrelation : c.registry.relation e name = .ok (relation, target)) :
    c.AsksSoFar e bag (done ++ [name]) path condition ↔
      c.AsksSoFar e bag done path condition ∨
        ∃ rest, path = relation :: rest ∧
          c.Asks target (c.relationParameters bag name true) rest condition := by
  constructor
  · rintro (h | ⟨name', hname', relation', target', rest, hrelation', hpath, hasks⟩)
    · exact Or.inl (Or.inl h)
    · rcases List.mem_append.mp hname' with hname' | hname'
      · exact Or.inl (Or.inr ⟨name', hname', relation', target', rest, hrelation', hpath, hasks⟩)
      · obtain rfl := List.mem_singleton.mp hname'
        cases hrelation.symm.trans hrelation'
        exact Or.inr ⟨rest, hpath, hasks⟩
  · rintro ((h | ⟨name', hname', h⟩) | ⟨rest, hpath, hasks⟩)
    · exact Or.inl h
    · exact Or.inr ⟨name', List.mem_append_left _ hname', h⟩
    · exact Or.inr ⟨name, List.mem_append_right _ (List.mem_singleton.mpr rfl), relation, target,
        rest, hrelation, hpath, hasks⟩

theorem asksSoFar_allowedRelations (hc : c.WellNamed) (he : e ∈ c.registry.entities) :
    c.AsksSoFar e bag e.spec.allowedRelations path condition ↔ c.Asks e bag path condition := by
  rw [asks_iff hc he, AsksSoFar]
  refine or_congr_right ⟨?_, ?_⟩
  · rintro ⟨name, -, h⟩
    exact ⟨name, h⟩
  · rintro ⟨name, relation, target, rest, hrelation, h⟩
    exact ⟨name, (Registry.of_relation hrelation).1, relation, target, rest, hrelation, h⟩

/-- A relation that is not searched is not asked for anything, except at the column that
is kept from searches. -/
theorem column_eq_of_entersRelation (hc : c.WellNamed) {left : Nat} {visited : List String}
    (htarget : target ∈ c.registry.entities)
    (h : c.entersRelation visited left target (c.relationParameters bag name true) false =
      .ok false) (hasks : c.Asks target (c.relationParameters bag name true) path condition) :
    condition.column = c.columnAlias := by
  rw [entersRelation] at h
  split at h
  next hempty => exact absurd hasks (not_asks_of_isEmpty hempty)
  next =>
    rw [onlyBroad_relationParameters] at h
    exact column_eq_of_findsAny hc htarget onlyBroad_relationParameters h hasks

/-- **A walk without the broad-search parameter compares exactly what is asked
for**, whatever it has visited before, except at the column that is kept from
searches. -/
theorem located_walk (hc : c.WellNamed) (left : Nat) (he : e ∈ c.registry.entities) (bag : Bag)
    (visited : List String) :
    Ends (fun w => ∀ path condition, (path, condition) ∈ w.predicate.located ↔
        c.Asks e bag path condition ∧ condition.column ≠ c.columnAlias)
      (fun _ => True) (c.walk left e bag true visited).value := by
  induction left generalizing e bag visited with
  | zero => exact .failure trivial
  | succ left ih =>
    -- The relations dealt with account for all comparisons that have been found.
    refine (ends_walk (fun done w => ∀ path condition, (path, condition) ∈ w.predicate.located ↔
        c.AsksSoFar e bag done path condition ∧ condition.column ≠ c.columnAlias)
      (fun _ _ => trivial) (fun own hown path condition => ?_)
      fun done name found hname hinv => ?_).mono (fun w hw path condition => ?_) fun _ h => h
    · rw [located_ownPredicate hc hown]
      refine and_congr_left fun _ => (or_iff_left ?_).symm
      rintro ⟨name, hname, -⟩
      exact List.not_mem_nil hname
    · refine ends_hop (fun _ _ => trivial) (fun _ _ _ _ _ => trivial) ?_ ?_
      · intro relation target hrelation hskip path condition
        have htarget := (Registry.registered_of_relation hrelation).mem
        rw [hinv, asksSoFar_append hrelation]
        refine and_congr_left fun halias => (or_iff_left ?_).symm
        rintro ⟨rest, -, hasks⟩
        exact halias (column_eq_of_entersRelation hc htarget hskip hasks)
      · intro relation target hrelation _
        have htarget := (Registry.registered_of_relation hrelation).mem
        refine (ih htarget (c.relationParameters bag name true) found.visited).mono
          (fun below hbelow path condition => ?_) fun _ h => h
        rw [asksSoFar_append hrelation, joined, Group.located_of, Predicate.locatedIn,
          Predicate.locatedIn, Predicate.locatedIn, List.append_nil, List.mem_append,
          Group.located_toPredicate, Group.located_related, hinv, List.mem_map, or_and_right]
        refine or_congr_right ⟨?_, ?_⟩
        · rintro ⟨⟨rest, condition'⟩, hl, hpair⟩
          cases hpair
          obtain ⟨hasks, halias⟩ := (hbelow rest condition').mp hl
          exact ⟨⟨rest, rfl, hasks⟩, halias⟩
        · rintro ⟨⟨rest, rfl, hasks⟩, halias⟩
          exact ⟨(rest, condition), (hbelow rest condition).mpr ⟨hasks, halias⟩, rfl⟩
    · rw [hw, asksSoFar_allowedRelations hc he]

/-- What is asked for is no comparison of the broad-search parameter. -/
theorem Asks.column_ne (h : c.Asks e bag path condition) : condition.column ≠ c.broadKey := by
  obtain ⟨key, value, last, column, -, -, -, hcontributes⟩ := h
  rw [hcontributes.column_eq]
  exact hcontributes.ne_broad

end SearchContext

/-! ### Exact addressing -/

/-- **Exact addressing.** A search that overlooks the broad parameter compares
exactly what its parameters address: a comparison stands in the predicate, below
the semi-joins of a path, if and only if some parameter that is not blank has a key
that is written with the scope names along this path in front of a searchable
column of the entity at its end, and the comparison is among those that the value
contributes at that column. Only the column is missed that the provider keeps from
searches, and this is none that is searchable if the two configurations agree on the
name of the broad-search parameter. -/
theorem Compiler.located_compile {c : Compiler} {catalog : Catalog} {entity : String}
    {source : Source} {options : SearchOptions} {clock : Clock} {result : CompiledSearch}
    (halias : '_' ∉ c.settings.broadKey.toList)
    (hcolumns : ∀ t ∈ catalog.tables, "" ∉ t.columnNames) (hscopes : c.registry.ScopesNamed)
    (hignore : options.ignoreBroad = true)
    (h : c.compile catalog entity source options clock = .ok result) :
    ∃ target bag requested, c.registry.get entity = .ok target ∧
      source.searchInput c.settings.broadKey = .ok bag ∧ requestedRelations bag = .ok requested ∧
      (∀ path condition, (path, condition) ∈ result.predicate.located ↔
        (c.context options requested catalog).Asks target bag path condition ∧
          condition.column ≠ c.columnAlias) ∧
      (c.columnAlias = c.settings.broadKey →
        ∀ path condition, (path, condition) ∈ result.predicate.located ↔
          (c.context options requested catalog).Asks target bag path condition) := by
  obtain ⟨request, walked, table, timeRange, hrequest, hwalked, -, -, rfl⟩ := parts_of_compile h
  obtain ⟨htarget, hbag, hrequested⟩ := parts_of_prepare hrequest
  have hregistered := (Registry.registered_of_get htarget).mem
  rw [requestWalk, hignore] at hwalked
  have hlocated := (SearchContext.located_walk (c := c.context options request.requested catalog)
    ⟨hscopes, halias, hcolumns⟩ (c.settings.maxDepth + 1) hregistered request.bag []).of_ok hwalked
  refine ⟨request.target, request.bag, request.requested, htarget, hbag, hrequested, hlocated,
    fun hsame path condition => (hlocated path condition).trans ?_⟩
  exact and_iff_left_of_imp fun hasks => hasks.column_ne.trans_eq hsame.symm

/-- A key that goes round a circle of relations is read along it. -/
theorem Compiler.located_compile_pond :
    ∃ result, Pond.compiler.compile Pond.catalog "Pond" Pond.addressed Pond.ignoring Pond.clock =
        .ok result ∧
      ∃ target bag requested, Pond.registry.get "Pond" = .ok target ∧
        Pond.addressed.searchInput "q" = .ok bag ∧ requestedRelations bag = .ok requested ∧
        ∀ path condition, (path, condition) ∈ result.predicate.located ↔
          (Pond.compiler.context Pond.ignoring requested Pond.catalog).Asks target bag path
            condition := by
  obtain ⟨result, h⟩ := exists_of_toBool (x := Pond.compiler.compile Pond.catalog "Pond"
    Pond.addressed Pond.ignoring Pond.clock) (by decide +kernel)
  obtain ⟨target, bag, requested, htarget, hbag, hrequested, -, hlocated⟩ :=
    Compiler.located_compile (by decide) (by decide) Pond.scopesNamed rfl h
  exact ⟨result, h, target, bag, requested, htarget, hbag, hrequested, hlocated rfl⟩

/-- A compiler with a name of its own for the broad-search parameter, while the provider
has the usual one. -/
def Pond.asking : Compiler :=
  ⟨registry, "main", { Settings.usual with broadKey := "ask", broadKey_nonblank := by decide }, "q"⟩

/-- Ponds with a column of the usual name. -/
def Pond.qualities : Catalog := ⟨"main", [⟨"ponds", "main", [⟨"q", "integer", false⟩]⟩]⟩

/-- **The column is missed that the provider keeps from searches**, although it does not have
the name that the compiler gives to the broad-search parameter. -/
theorem Compiler.not_located_columnAlias :
    ∃ result target bag requested, Pond.asking.compile Pond.qualities "Pond"
          (.value (.map [(.str "q", .int 3)])) Pond.ignoring Pond.clock = .ok result ∧
      Pond.registry.get "Pond" = .ok target ∧
      (Source.value (.map [(.str "q", .int 3)])).searchInput "ask" = .ok bag ∧
      requestedRelations bag = .ok requested ∧
      ¬∀ path condition, (path, condition) ∈ result.predicate.located ↔
        (Pond.asking.context Pond.ignoring requested Pond.qualities).Asks target bag path
          condition := by
  obtain ⟨result, h, hnone⟩ := exists_of_map_ok
    (x := Pond.asking.compile Pond.qualities "Pond" (.value (.map [(.str "q", .int 3)]))
      Pond.ignoring Pond.clock)
    (f := fun s => s.predicate.located.isEmpty) (b := true) (by decide +kernel)
  refine ⟨result, Pond.pond, Bag.single "q" (.int 3), [], h, rfl, rfl, rfl, fun hall => ?_⟩
  -- The value would contribute one comparison at the column of its key.
  have hlocated := (hall [] ⟨"q", .equal, .int 3⟩).mpr ⟨"q", .int 3, Pond.pond, "q",
    List.mem_singleton_self _, rfl, .here _ _, _, ⟨rfl, by decide, by decide, by decide⟩, ?_⟩
  · rw [List.isEmpty_iff.mp hnone] at hlocated
    exact List.not_mem_nil hlocated
  · rw [mem_located_buildPredicate_single rfl]
    exact List.mem_singleton_self _

end RelationalSearch
