import RelationalSearch.Proofs.Compilation

/-!
# The searches that a compiler makes

A search is made in one of three ways: over an entity with its relations, over an
entity by one relation, or over an entity by columns of a relation
(`RelationalSearch.Compiler.Makes`). All of them put their predicate together from
the predicates of single tables, by joining the predicate of one entity with a
semi-join around the predicate of another. What holds of the former and is passed
on by the latter (`RelationalSearch.Compiler.Carried`) therefore holds of every
search that is made (`RelationalSearch.Compiler.Makes.of_carried`).

Every search is made out of the parameters of one bag
(`RelationalSearch.Compiler.MakesOf`), and each table is asked for parameters that come
from this bag. So it is enough that a property holds of the predicates of single tables
for such parameters (`RelationalSearch.Compiler.CarriedFrom`).
-/

namespace RelationalSearch

namespace Compiler

/-- **The searches that a compiler makes** out of the tables of a catalog. -/
inductive Makes (c : Compiler) (catalog : Catalog) : CompiledSearch → Prop
  /-- A search over an entity with all its relations. -/
  | compiled {entity : String} {source : Source} {options : SearchOptions} {clock : Clock}
      {result : CompiledSearch} (h : c.compile catalog entity source options clock = .ok result) :
      Makes c catalog result
  /-- A search over an entity by one relation. -/
  | byRelation {entity relation : String} {source : Source} {name : Option String}
      {options : SearchOptions} {result : CompiledSearch}
      (h : c.compileRelation catalog entity relation source name options = .ok result) :
      Makes c catalog result
  /-- A search over an entity by columns of a relation. -/
  | byColumns {entity relation : String} {key value : Value} {forceOr : Bool}
      {result : CompiledSearch}
      (h : c.ofRelation catalog entity relation key value forceOr = .ok result) :
      Makes c catalog result

/-- **The searches that a compiler makes out of the parameters of a bag**, in whatever
way the bag is given. In a search by columns of a relation the bag has the value that
they are compared with, under each of them. -/
inductive MakesOf (c : Compiler) (catalog : Catalog) (bag : Bag) : CompiledSearch → Prop
  /-- A search over an entity with all its relations. -/
  | compiled {entity : String} {source : Source} {options : SearchOptions} {clock : Clock}
      {result : CompiledSearch} (hbag : source.searchInput c.settings.broadKey = .ok bag)
      (h : c.compile catalog entity source options clock = .ok result) :
      MakesOf c catalog bag result
  /-- A search over an entity by one relation. -/
  | byRelation {entity relation : String} {source : Source} {name : Option String}
      {options : SearchOptions} {result : CompiledSearch} (hbag : source.toBag = .ok bag)
      (h : c.compileRelation catalog entity relation source name options = .ok result) :
      MakesOf c catalog bag result
  /-- A search over an entity by columns of a relation. -/
  | byColumns {entity relation : String} {key value : Value} {forceOr : Bool} {keys : List Value}
      {result : CompiledSearch} (hkeys : keysOf key = .ok keys)
      (hbag : Bag.ofTable (Value.ofEntries (keys.map fun k => (k, value))) = .ok bag)
      (h : c.ofRelation catalog entity relation key value forceOr = .ok result) :
      MakesOf c catalog bag result

/-! ### What is passed on -/

/-- **What is carried through a search out of a bag**: a property of the predicates
found for entities that holds when nothing is asked for, holds of the searchable columns
of every table for parameters that come from the bag, and is passed on when a relation is
joined. A broad search has something to look for. -/
structure CarriedFrom (c : Compiler) (catalog : Catalog) (bag : Bag)
    (P : Entity → Group → Prop) : Prop where
  empty (e : Entity) : P e Group.empty
  own (e : Entity) {table : Table} (params : Bag) (mode : BuildMode) :
    catalog.table e.table = .ok table → params.From bag →
      mode.broadKey = c.settings.broadKey →
      (mode.broad = true → params.filled mode.broadKey = true) →
      P e (buildPredicate table (Catalog.searchable table e.spec.excludedKeys c.columnAlias)
        e.spec.likeKeys params mode)
  joined {e target : Entity} {name : String} {relation : Relation} {found below : Group}
    (connective : Connective) : c.registry.relation e name = .ok (relation, target) → P e found →
      P target below →
        P e (Group.of connective [found.toPredicate, Group.related relation target.table below])

/-- **What is carried through a search**: a property of the predicates found for
entities that holds when nothing is asked for, holds of the searchable columns of
every table, and is passed on when a relation is joined. -/
structure Carried (c : Compiler) (catalog : Catalog) (P : Entity → Group → Prop) : Prop where
  empty (e : Entity) : P e Group.empty
  own (e : Entity) {table : Table} (params : Bag) (mode : BuildMode) :
    catalog.table e.table = .ok table →
      P e (buildPredicate table (Catalog.searchable table e.spec.excludedKeys c.columnAlias)
        e.spec.likeKeys params mode)
  joined {e target : Entity} {name : String} {relation : Relation} {found below : Group}
    (connective : Connective) : c.registry.relation e name = .ok (relation, target) → P e found →
      P target below →
        P e (Group.of connective [found.toPredicate, Group.related relation target.table below])

variable {c : Compiler} {catalog : Catalog} {bag : Bag} {P : Entity → Group → Prop}

/-- What is carried through a search is carried whatever the bag is. -/
theorem Carried.carriedFrom (hP : c.Carried catalog P) (bag : Bag) :
    c.CarriedFrom catalog bag P where
  empty := hP.empty
  own e _ params mode htable _ _ _ := hP.own e params mode htable
  joined := hP.joined

/-- A semi-join by itself is one joined to nothing. -/
theorem CarriedFrom.related (hP : c.CarriedFrom catalog bag P) {e target : Entity} {name : String}
    {relation : Relation} {below : Group}
    (hrelation : c.registry.relation e name = .ok (relation, target)) (hbelow : P target below) :
    P e (Group.of .and [Group.related relation target.table below]) :=
  hP.joined .and hrelation (hP.empty e) hbelow

/-- **A walk carries what is carried through a search**, when it is given parameters
that come from the bag. -/
theorem CarriedFrom.walk (hP : c.CarriedFrom catalog bag P) {options : SearchOptions}
    {requested : List String} (left : Nat) (e : Entity) {inner : Bag} (hinner : inner.From bag)
    (ignoreBroad : Bool) (visited : List String) :
    Ends (fun w => P e w.predicate) (fun _ => True)
      ((c.context options requested catalog).walk left e inner ignoreBroad visited).value := by
  -- The induction is on the depth that is left, for all entities at once.
  induction left generalizing e inner ignoreBroad visited with
  | zero => exact .failure trivial
  | succ left ih =>
    refine SearchContext.ends_walk (fun _ w => P e w.predicate) (fun _ _ => trivial)
      (fun own hown => ?_) fun done name found _ hfound => ?_
    · obtain ⟨table, htable, rfl⟩ := exists_of_map_ok hown
      refine hP.own e _ _ htable ((Scope.from_apply _ _).trans hinner) rfl fun hbroad => ?_
      exact (Bool.and_eq_true_iff.mp hbroad).2
    · refine SearchContext.ends_hop (fun _ _ => trivial) (fun _ _ _ _ _ => trivial)
        (fun _ _ _ _ => hfound) fun relation target hrelation _ => ?_
      have hreaching := (SearchContext.from_reaching (c.context options requested catalog) e inner
        ignoreBroad name).trans hinner
      exact (ih target hreaching _ found.visited).mono
        (fun below hbelow => hP.joined _ hrelation hfound hbelow) fun _ h => h

/-! ### The three ways -/

/-- The walk that a request for a search by one relation asks for; the entity that the
search is made over has been visited. -/
def relationWalk (c : Compiler) (catalog : Catalog) (options : SearchOptions)
    (request : RelationRequest) : Except SearchError Walked :=
  ((c.context { options with followRelations := false } request.requested catalog).walk
    c.settings.maxDepth request.target request.bag options.ignoreBroad [request.source.name]).value

/-- A search over the entity of a request, without an order or a range of time. -/
def RelationRequest.found (request : RelationRequest) (predicate : Group)
    (visited : List String) : CompiledSearch :=
  ⟨request.source.name, request.source.table, predicate, [], none, sortedNames visited⟩

/-- A prepared search by one relation is for a relation that resolves, with the
parameters that stand under its name. -/
theorem parts_of_prepareRelation {entity relation : String} {source : Source}
    {name : Option String} {ignoreBroad : Bool} {request : RelationRequest}
    (h : c.prepareRelation entity relation source name ignoreBroad = .ok request) :
    c.registry.get entity = .ok request.source ∧
      c.registry.relation request.source relation = .ok (request.relation, request.target) ∧
      ∃ bag, source.toBag = .ok bag ∧
        request.bag = c.scopedTo [] (name.getD (scopeKey relation)) ignoreBroad bag := by
  obtain ⟨e, he, h⟩ := exists_of_bind_ok h
  obtain ⟨⟨declared, target⟩, hrelation, h⟩ := exists_of_bind_ok h
  obtain ⟨bag, hbag, h⟩ := exists_of_bind_ok h
  obtain ⟨requested, -, h⟩ := exists_of_bind_ok h
  -- The bag is named before it is compared, since otherwise its blanks are looked at.
  generalize hinner : c.scopedTo [] (name.getD (scopeKey relation)) ignoreBroad bag = inner at h
  cases h
  exact ⟨ok_of_mapError_ok he, ok_of_mapError_ok hrelation, bag, hbag, hinner.symm⟩

/-- **A search by one relation has all its parts**: it asks for nothing when there are no
parameters for the relation, and otherwise it is the semi-join of a walk. -/
theorem parts_of_compileRelation {entity relation : String} {source : Source}
    {name : Option String} {options : SearchOptions} {result : CompiledSearch}
    (h : c.compileRelation catalog entity relation source name options = .ok result) :
    ∃ request, c.prepareRelation entity relation source name options.ignoreBroad = .ok request ∧
      ((request.bag.isEmpty = true ∧
          result = request.found Group.empty [request.source.name]) ∨
        (request.bag.isEmpty = false ∧
          ∃ walked, c.relationWalk catalog options request = .ok walked ∧
            result = request.found (Group.of .and
              [Group.related request.relation request.target.table walked.predicate])
                walked.visited)) := by
  obtain ⟨request, hrequest, h⟩ := exists_of_bind_ok h
  refine ⟨request, hrequest, ?_⟩
  rw [compileRelationRequest] at h
  split at h
  next hempty =>
    cases h
    exact Or.inl ⟨hempty, rfl⟩
  next hempty =>
    simp only [Narrated.value_bind, Narrated.value_pure, Narrated.value_mapError] at h
    obtain ⟨tables, htables, h⟩ := exists_of_bind_ok h
    cases htables
    obtain ⟨walked, hwalked, h⟩ := exists_of_bind_ok h
    cases h
    exact Or.inr ⟨by simpa using hempty, walked, ok_of_mapError_ok hwalked, rfl⟩

/-- A search by one relation is the semi-join of a walk, or asks for nothing; the
parameters of the walk come from the bag. -/
theorem of_compileRelation {entity relation : String} {source : Source} {name : Option String}
    {options : SearchOptions} {result : CompiledSearch}
    (h : c.compileRelation catalog entity relation source name options = .ok result) :
    ∃ e target declared bag, c.registry.get entity = .ok e ∧
      c.registry.relation e relation = .ok (declared, target) ∧ source.toBag = .ok bag ∧
      result.entity = e.name ∧ result.table = e.table ∧
      (result.predicate = Group.empty ∨
        ∃ left inner requested walked, inner.From bag ∧
          ((c.context { options with followRelations := false } requested catalog).walk left target
            inner options.ignoreBroad [e.name]).value = .ok walked ∧
          result.predicate =
            Group.of .and [Group.related declared target.table walked.predicate]) := by
  obtain ⟨request, hrequest, hdone⟩ := parts_of_compileRelation h
  obtain ⟨he, hrelation, bag, hbag, hscoped⟩ := parts_of_prepareRelation hrequest
  refine ⟨request.source, request.target, request.relation, bag, he, hrelation, hbag, ?_⟩
  rcases hdone with ⟨-, rfl⟩ | ⟨-, walked, hwalked, rfl⟩
  · exact ⟨rfl, rfl, Or.inl rfl⟩
  · exact ⟨rfl, rfl, Or.inr ⟨_, request.bag, _, walked, hscoped ▸ Scope.from_apply _ _, hwalked, rfl⟩⟩

/-- A search by columns of a relation is the semi-join of the predicate of its
target's columns; their parameters come from the bag. -/
theorem of_ofRelation {entity relation : String} {key value : Value} {forceOr : Bool}
    {result : CompiledSearch}
    (h : c.ofRelation catalog entity relation key value forceOr = .ok result) :
    ∃ e target declared table keys bag params mode, c.registry.get entity = .ok e ∧
      c.registry.relation e relation = .ok (declared, target) ∧
      catalog.table target.table = .ok table ∧ keysOf key = .ok keys ∧
      Bag.ofTable (Value.ofEntries (keys.map fun k => (k, value))) = .ok bag ∧
      params.From bag ∧ mode.broadKey = c.settings.broadKey ∧ mode.broad = false ∧
      result.entity = e.name ∧ result.table = e.table ∧
      result.visited = sortedNames [e.name, target.name] ∧
      result.predicate = Group.of .and [Group.related declared target.table
        (buildPredicate table (Catalog.searchable table target.spec.excludedKeys c.columnAlias)
          target.spec.likeKeys params mode)] := by
  obtain ⟨request, hrequest, h⟩ := exists_of_bind_ok h
  obtain ⟨e, he, hrequest⟩ := exists_of_bind_ok hrequest
  obtain ⟨⟨declared, target⟩, hrelation, hrequest⟩ := exists_of_bind_ok hrequest
  obtain ⟨keys, hkeys, hrequest⟩ := exists_of_bind_ok hrequest
  obtain ⟨bag, hbag, hrequest⟩ := exists_of_bind_ok hrequest
  cases hrequest
  simp only [compileColumnsRequest, Narrated.value_bind, Narrated.value_pure,
    Narrated.value_silent] at h
  obtain ⟨tables, htables, h⟩ := exists_of_bind_ok h
  cases htables
  obtain ⟨table, htable, h⟩ := exists_of_bind_ok h
  cases h
  exact ⟨e, target, declared, table, keys, bag, _, _, ok_of_mapError_ok he,
    ok_of_mapError_ok hrelation, ok_of_mapError_ok htable, hkeys, ok_of_mapError_ok hbag,
    Scope.from_apply _ _, rfl, rfl, rfl, rfl, rfl, rfl⟩

/-- **Every search is made out of a bag.** -/
theorem Makes.exists_makesOf {result : CompiledSearch} (h : c.Makes catalog result) :
    ∃ bag, c.MakesOf catalog bag result := by
  cases h with
  | compiled h =>
    obtain ⟨request, walked, table, range, hrequest, -⟩ := parts_of_compile h
    exact ⟨request.bag, .compiled (parts_of_prepare hrequest).2.1 h⟩
  | byRelation h =>
    obtain ⟨e, target, declared, bag, -, -, hbag, -⟩ := of_compileRelation h
    exact ⟨bag, .byRelation hbag h⟩
  | byColumns h =>
    obtain ⟨e, target, declared, table, keys, bag, params, mode, -, -, -, hkeys, hbag, -⟩ :=
      of_ofRelation h
    exact ⟨bag, .byColumns hkeys hbag h⟩

/-- **What is carried through a search out of a bag holds of every search that is made
out of it**, for the entity that it is made over. -/
theorem MakesOf.of_carriedFrom (hP : c.CarriedFrom catalog bag P) {result : CompiledSearch}
    (h : c.MakesOf catalog bag result) :
    ∃ e, c.registry.find? result.entity = some e ∧ result.table = e.table ∧
      P e result.predicate := by
  cases h with
  | compiled hbag h =>
    obtain ⟨request, walked, table, range, hrequest, hwalked, -, -, rfl⟩ := parts_of_compile h
    obtain ⟨htarget, hrequested, -⟩ := parts_of_prepare hrequest
    have hfrom : request.bag.From bag := by
      cases hrequested.symm.trans hbag
      exact Bag.From.refl _
    exact ⟨request.target, Registry.registered_of_get htarget, rfl,
      (hP.walk _ _ hfrom _ _).of_ok hwalked⟩
  | byRelation hbag h =>
    obtain ⟨e, target, declared, bag', he, hrelation, hbag', hname, htable, hpredicate⟩ :=
      of_compileRelation h
    cases hbag.symm.trans hbag'
    refine ⟨e, by rw [hname]; exact Registry.registered_of_get he, htable, ?_⟩
    rcases hpredicate with hnothing | ⟨left, inner, requested, walked, hinner, hwalked, hjoined⟩
    · rw [hnothing]
      exact hP.empty e
    · rw [hjoined]
      exact hP.related hrelation ((hP.walk _ _ hinner _ _).of_ok hwalked)
  | byColumns hkeys hbag h =>
    obtain ⟨e, target, declared, table, keys', bag', params, mode, he, hrelation, htarget, hkeys',
      hbag', hparams, hbroadKey, hbroad, hname, htable, -, hpredicate⟩ := of_ofRelation h
    cases hkeys.symm.trans hkeys'
    cases hbag.symm.trans hbag'
    refine ⟨e, by rw [hname]; exact Registry.registered_of_get he, htable, ?_⟩
    rw [hpredicate]
    refine hP.related hrelation (hP.own target params mode htarget hparams hbroadKey fun hc => ?_)
    rw [hbroad] at hc
    cases hc

/-- **What is carried through a search holds of every search that is made**, for the
entity that it is made over. -/
theorem Makes.of_carried (hP : c.Carried catalog P) {result : CompiledSearch}
    (h : c.Makes catalog result) :
    ∃ e, c.registry.find? result.entity = some e ∧ result.table = e.table ∧
      P e result.predicate := by
  obtain ⟨bag, hbag⟩ := h.exists_makesOf
  exact hbag.of_carriedFrom (hP.carriedFrom bag)

end Compiler

end RelationalSearch
