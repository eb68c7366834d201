import RelationalSearch.Proofs.Compilation
import RelationalSearch.Proofs.Leaves

/-!
# The reach of a broad search

A search for nothing but the broad parameter, in all relations, comes to every
entity that can be reached and to each of them once. Every semi-join of its
predicate is made when an entity is visited for the first time, so the visited
entities are, in the order of their visits, the entity itself and then those that
the semi-joins lead to; and when the relations of an entity have been gone
through, all their targets have been visited.

This is what `RelationalSearch.SearchContext.Spanned` says of a walk in which some
relations have been dealt with. One more relation keeps it, whether it is left out,
because its target has been visited, or entered
(`RelationalSearch.SearchContext.Spanned.enter`). At the end there is nothing left
to go to, so what has been visited is closed under relations
(`RelationalSearch.SearchContext.Spanned.mem_visited`).
-/

namespace RelationalSearch

namespace SearchContext

variable {c : SearchContext} {e target : Entity} {v : Value} {name : String} {left : Nat}
  {visited done : List String} {relation : Relation}

/-! ### The broad-search parameter alone -/

/-- The bag of a broad search for a value. -/
def broadBag (c : SearchContext) (v : Value) : Bag := Bag.single c.broadKey v

theorem onlyBroad_broadBag : c.onlyBroad (c.broadBag v) = true :=
  Bag.only_singleton.mpr ⟨List.mem_singleton.mpr rfl, fun _ hkey => List.mem_singleton.mp hkey⟩

theorem isEmpty_broadBag : (c.broadBag v).isEmpty = false := rfl

/-- A broad search in all relations reaches each of them unchanged. -/
theorem reaching_broadBag (hfollow : c.followRelations = true) (hblank : v.isBlank = false)
    (hscope : ∀ key, c.broadKey ≠ scopeName name ++ "_" ++ key) :
    c.carriesBroad e false name = true ∧
      c.reaching e (c.broadBag v) false name = c.broadBag v := by
  have hcarries : c.carriesBroad e false name = true := by
    rw [carriesBroad, propagates, hfollow]
    rfl
  refine ⟨hcarries, ?_⟩
  rw [reaching, hcarries, relationParameters]
  exact Scope.apply_single rfl List.not_mem_nil hblank fun _ => hscope

/-- A broad search enters the relations that lead to an entity it has not visited. -/
theorem entersRelation_broadBag {table : Table} (htable : c.table target = .ok table)
    (hleft : target.name ∉ visited → 0 < left) :
    c.entersRelation visited left target (c.broadBag v) true =
      .ok (!visited.contains target.name) := by
  rw [entersRelation, isEmpty_broadBag, if_neg (by decide), onlyBroad_broadBag, Bool.true_and]
  by_cases hvisited : target.name ∈ visited
  · rw [if_pos (List.contains_iff_mem.mpr hvisited), List.contains_iff_mem.mpr hvisited]
    rfl
  · have hcontains : visited.contains target.name = false := by simpa using hvisited
    obtain ⟨left, rfl⟩ := Nat.exists_eq_succ_of_ne_zero (hleft hvisited).ne'
    rw [hcontains, if_neg (by decide), Bool.not_true,
      findsAny_of_not_mem onlyBroad_broadBag hvisited, columns, htable]
    rfl

/-- From here on a broad search is never in want of anything: the entity and all
that it can reach have their tables, their relations resolve, and no relation takes
the broad-search parameter for one of its own keys. -/
structure Spannable (c : SearchContext) (e : Entity) : Prop where
  registered : c.registry.Registered e
  resolves : ∀ e', c.registry.Reaches e e' → ∀ name ∈ e'.spec.allowedRelations,
    ∃ relation target, c.registry.relation e' name = .ok (relation, target)
  tables : ∀ e', c.registry.Reaches e e' → ∃ table, c.table e' = .ok table
  scopes : ∀ e', c.registry.Reaches e e' → ∀ name ∈ e'.spec.allowedRelations,
    ∀ key, c.broadKey ≠ scopeName name ++ "_" ++ key

theorem Spannable.step (h : c.Spannable e)
    (hrelation : c.registry.relation e name = .ok (relation, target)) : c.Spannable target := by
  have hhead : ∀ {e'}, c.registry.Reaches target e' → c.registry.Reaches e e' := fun h =>
    Relation.ReflTransGen.head ⟨name, relation, hrelation⟩ h
  exact ⟨Registry.registered_of_relation hrelation, fun e' h' => h.resolves e' (hhead h'),
    fun e' h' => h.tables e' (hhead h'), fun e' h' => h.scopes e' (hhead h')⟩

/-! ### The state of a walk -/

/-- **What a broad search has spanned** from an entity, after some visits and with
some of the entity's relations dealt with. -/
structure Spanned (c : SearchContext) (e : Entity) (visited done : List String) (found : Walked) :
    Prop where
  /-- The new visits are the entity and the targets of the semi-joins, in order. -/
  visited_eq : found.visited = visited ++ e.name :: found.predicate.joins
  /-- No entity has been visited twice. -/
  nodup : found.visited.Nodup
  /-- The targets of the semi-joins can be reached. -/
  reached : ∀ x ∈ found.predicate.joins, ∃ e', c.registry.Reaches e e' ∧ e'.name = x
  /-- The relations of these targets lead to visited entities. -/
  closed : ∀ e', c.registry.Registered e' → e'.name ∈ found.predicate.joins →
    ∀ target, c.registry.Leads e' target → target.name ∈ found.visited
  /-- The relations dealt with lead to visited entities. -/
  targets : ∀ name ∈ done, ∀ relation target,
    c.registry.relation e name = .ok (relation, target) → target.name ∈ found.visited

theorem joins_joined {bag : Bag} {ignoreBroad : Bool} {found below : Walked} :
    (c.joined e bag ignoreBroad name relation target found below).predicate.joins =
      found.predicate.joins ++ relation.target :: below.predicate.joins := by
  rw [joined, Group.joins_of, Predicate.joinsIn, Predicate.joinsIn, Predicate.joinsIn,
    List.append_nil, Group.joins_toPredicate, Group.joins_related]

/-- A relation that is left out leads to a visited entity. -/
theorem Spanned.skip {found : Walked} (h : c.Spanned e visited done found)
    (hrelation : c.registry.relation e name = .ok (relation, target))
    (hvisited : target.name ∈ found.visited) : c.Spanned e visited (done ++ [name]) found := by
  refine ⟨h.visited_eq, h.nodup, h.reached, h.closed, fun name' hname' => ?_⟩
  rcases List.mem_append.mp hname' with hname' | hname'
  · exact h.targets name' hname'
  · obtain rfl := List.mem_singleton.mp hname'
    intro relation' target' hrelation'
    cases hrelation.symm.trans hrelation'
    exact hvisited

/-- **One more relation is entered**: what the walk below has spanned comes in
addition. -/
theorem Spanned.enter {found below : Walked} {bag : Bag} {ignoreBroad : Bool}
    (h : c.Spanned e visited done found)
    (hrelation : c.registry.relation e name = .ok (relation, target))
    (hbelow : c.Spanned target found.visited target.spec.allowedRelations below) :
    c.Spanned e visited (done ++ [name])
      (c.joined e bag ignoreBroad name relation target found below) := by
  have htarget : relation.target = target.name := Registry.target_of_relation hrelation
  have hkept : found.visited ⊆ below.visited := by
    rw [hbelow.visited_eq]
    exact List.subset_append_left _ _
  have hmem : target.name ∈ below.visited := by
    rw [hbelow.visited_eq]
    exact List.mem_append_right _ List.mem_cons_self
  refine ⟨?_, hbelow.nodup, fun x hx => ?_, fun e' he' hx t hleads => ?_, fun name' hname' => ?_⟩
  · show below.visited = _
    rw [joins_joined, htarget, hbelow.visited_eq, h.visited_eq, List.append_assoc,
      List.cons_append]
  · rw [joins_joined, htarget, List.mem_append, List.mem_cons] at hx
    rcases hx with hx | rfl | hx
    · exact h.reached x hx
    · exact ⟨target, .single ⟨name, relation, hrelation⟩, rfl⟩
    · obtain ⟨e', hreaches, rfl⟩ := hbelow.reached x hx
      exact ⟨e', .head ⟨name, relation, hrelation⟩ hreaches, rfl⟩
  · rw [joins_joined, htarget, List.mem_append, List.mem_cons] at hx
    rcases hx with hx | hx | hx
    · exact hkept (h.closed e' he' hx t hleads)
    · -- The target itself: its relations have all been dealt with below.
      obtain rfl := he'.eq_of_name (Registry.registered_of_relation hrelation) hx
      obtain ⟨name', relation', hrelation'⟩ := hleads
      exact hbelow.targets name' (Registry.of_relation hrelation').1 relation' t hrelation'
    · exact hbelow.closed e' he' hx t hleads
  · rcases List.mem_append.mp hname' with hname' | hname'
    · exact fun relation' target' hrelation' =>
        hkept (h.targets name' hname' relation' target' hrelation')
    · obtain rfl := List.mem_singleton.mp hname'
      intro relation' target' hrelation'
      cases hrelation.symm.trans hrelation'
      exact hmem

/-- **A broad search spans what it can reach.** -/
theorem spanned_walk (hfollow : c.followRelations = true) (hblank : v.isBlank = false)
    (hspan : c.Spannable e) (hnew : e.name ∉ visited) (hnodup : visited.Nodup)
    (hleft : c.registry.unseen visited ≤ left) :
    Ends (c.Spanned e visited e.spec.allowedRelations) (fun _ => False)
      (c.walk left e (c.broadBag v) false visited).value := by
  induction left generalizing e visited with
  | zero =>
    have := Registry.unseen_pos hspan.registered.mem hnew
    omega
  | succ left ih =>
    obtain ⟨table, htable⟩ := hspan.tables e .refl
    refine ends_walk (fun done found => c.Spanned e visited done found) (fun err hown => ?_)
      (fun own hown => ?_) fun done name found hname hinv => ?_
    · rw [ownPredicate, htable] at hown
      cases hown
    · rw [ownPredicate, htable] at hown
      cases hown
      have hjoins : (buildPredicate table
          (Catalog.searchable table e.spec.excludedKeys c.columnAlias) e.spec.likeKeys
          (c.ownParameters e (c.broadBag v) false)
          ⟨!false && (c.ownParameters e (c.broadBag v) false).filled c.broadKey, c.forceOr,
            c.forceLike, c.broadKey⟩).joins = [] := joins_buildPredicate
      refine ⟨?_, ?_, ?_, ?_, fun _ h => absurd h List.not_mem_nil⟩
      · rw [noteVisit_of_not_mem hnew, hjoins]
      · exact nodup_noteVisit hnodup e.name
      · rw [hjoins]
        exact fun _ h => absurd h List.not_mem_nil
      · rw [hjoins]
        exact fun _ _ h => absurd h List.not_mem_nil
    · obtain ⟨relation, target, hrelation⟩ := hspan.resolves e .refl name hname
      obtain ⟨hcarries, hreaching⟩ := reaching_broadBag (e := e) hfollow hblank
        (hspan.scopes e .refl name hname)
      -- The entity itself has been visited, so fewer entities are left for the walk below.
      have hfewer : c.registry.unseen found.visited < c.registry.unseen visited := by
        refine Registry.unseen_lt hspan.registered.mem hnew ?_ ?_
        · rw [hinv.visited_eq]
          exact List.subset_append_left _ _
        · rw [hinv.visited_eq]
          exact List.mem_append_right _ List.mem_cons_self
      have hregistered := Registry.registered_of_relation hrelation
      obtain ⟨table', htable'⟩ := (hspan.step hrelation).tables target .refl
      have henters : c.entersRelation found.visited left target (c.broadBag v) true =
          .ok (!found.visited.contains target.name) := by
        refine entersRelation_broadBag htable' fun hunvisited => ?_
        have := Registry.unseen_pos hregistered.mem hunvisited
        omega
      refine ends_hop (fun err herr => ?_) (fun relation' target' err hrelation' herr => ?_)
        (fun relation' target' hrelation' hskip => ?_) fun relation' target' hrelation' henter => ?_
      · cases hrelation.symm.trans herr
      · cases hrelation.symm.trans hrelation'
        rw [hreaching, hcarries, henters] at herr
        cases herr
      · cases hrelation.symm.trans hrelation'
        rw [hreaching, hcarries, henters] at hskip
        exact hinv.skip hrelation (by simpa using hskip)
      · cases hrelation.symm.trans hrelation'
        rw [hreaching, hcarries, henters] at henter
        rw [hreaching, hcarries, Bool.not_true]
        refine (ih (hspan.step hrelation) (by simpa using henter) hinv.nodup (by omega)).mono
          (fun below hbelow => ?_) fun _ h => h
        exact hinv.enter hrelation hbelow

/-- **A broad search from nowhere visits exactly what it can reach.** -/
theorem Spanned.mem_visited (hregistered : c.registry.Registered e) {walked : Walked}
    (h : c.Spanned e [] e.spec.allowedRelations walked) {x : String} :
    x ∈ walked.visited ↔ ∃ e', c.registry.Reaches e e' ∧ e'.name = x := by
  have hvisited : walked.visited = e.name :: walked.predicate.joins := h.visited_eq
  constructor
  · intro hx
    rw [hvisited] at hx
    rcases List.mem_cons.mp hx with rfl | hx
    · exact ⟨e, .refl, rfl⟩
    · exact h.reached x hx
  · rintro ⟨e', hreaches, rfl⟩
    induction hreaches with
    | refl =>
      rw [hvisited]
      exact List.mem_cons_self
    | tail hreaches hleads ih =>
      have hlast := Registry.Reaches.registered hregistered hreaches
      rw [hvisited] at ih
      rcases List.mem_cons.mp ih with hsame | hjoined
      · obtain rfl := hlast.eq_of_name hregistered hsame
        obtain ⟨name, relation, hrelation⟩ := hleads
        exact h.targets name (Registry.of_relation hrelation).1 relation _ hrelation
      · exact h.closed _ hlast hjoined _ hleads

end SearchContext

/-! ### Searches -/

/-- Values enter a bag blank or not, as they are. -/
theorem Value.isBlank_of_cleaned {key : String} {v v' : Value} (h : v.cleaned key = .ok v') :
    v'.isBlank = v.isBlank := by
  have hitems : ∀ {items items' : List Value}, cleanedItems key items = .ok items' →
      items'.isEmpty = items.isEmpty := by
    intro items items' h
    cases items with
    | nil => cases h; rfl
    | cons x xs =>
      rw [cleanedItems] at h
      split at h
      · obtain ⟨ys, -, rfl⟩ := exists_of_map_ok h
        rfl
      · cases h
  cases v with
  | list items =>
    obtain ⟨items', hitems', rfl⟩ := exists_of_map_ok h
    exact hitems hitems'
  | tuple items =>
    obtain ⟨items', hitems', rfl⟩ := exists_of_map_ok h
    exact hitems hitems'
  | bag entries =>
    simp only [cleaned, Except.ok.injEq] at h
    rw [← h]
    exact List.isEmpty_map
  | null | bool | int | float | str | map =>
    simp only [cleaned, Except.ok.injEq] at h
    rw [← h]
  | bytes | date | datetime | object => simp only [cleaned, reduceCtorEq] at h

namespace Compiler

variable {c : Compiler} {catalog : Catalog} {entity : String} {target : Entity}
  {options : SearchOptions} {clock : Clock} {v v' : Value}

/-- The request of a broad search for a value. -/
theorem prepare_broad (hentity : c.registry.get entity = .ok target)
    (hrelations : c.settings.broadKey ≠ broadRelationsKey)
    (hv : v.cleaned c.settings.broadKey = .ok v') :
    c.prepare entity (.value (.map [(.str c.settings.broadKey, v)])) =
      .ok ⟨target, Bag.single c.settings.broadKey v', []⟩ := by
  have hbag : Source.searchInput c.settings.broadKey
      (.value (.map [(.str c.settings.broadKey, v)])) =
        .ok (Bag.single c.settings.broadKey v') := by
    show (Bag.ofTable [(.str c.settings.broadKey, v)]).mapError Failure.refused = _
    simp only [Bag.ofTable, List.foldlM_cons, List.foldlM_nil, hv]
    rfl
  have hrequested : requestedRelations (Bag.single c.settings.broadKey v') = .ok [] := by
    rw [requestedRelations, Bag.get, Bag.get?_single_of_ne (Ne.symm hrelations)]
    rfl
  rw [prepare, hentity, hbag]
  simp only [Except.mapError, bind, Except.bind, hrequested]
  rfl

/-- A broad search has no range of time. -/
theorem requestRange_broad (hblank : v.isBlank = false)
    (hreserved : c.settings.broadKey ∉ TimeRange.parameterNames) (table : Table) :
    c.requestRange clock ⟨target, Bag.single c.settings.broadKey v, []⟩ table = .ok none := by
  have hscoped : c.scopedTo [] "" false (Bag.single c.settings.broadKey v) =
      Bag.single c.settings.broadKey v :=
    Scope.apply_single rfl List.not_mem_nil hblank fun hname => absurd rfl hname
  have hunfilled : (["date", "date_from", "datetime_from"].any
      (Bag.single c.settings.broadKey v).filled) = false := by
    refine List.any_eq_false.mpr fun key hkey hfilled => ?_
    rw [Bag.filled_single_of_ne] at hfilled
    · cases hfilled
    · rintro rfl
      have hnames : ["date", "date_from", "datetime_from"] ⊆ TimeRange.parameterNames := by decide
      exact hreserved (hnames hkey)
  rw [requestRange, hscoped, TimeRange.resolve, hunfilled]
  rfl

/-- **A broad search spans the reachable graph exactly once.** -/
theorem compile_spans (hentity : c.registry.get entity = .ok target)
    (hfollow : options.followRelations = true) (hbroad : options.ignoreBroad = false)
    (hresolves : ∀ e, c.registry.Reaches target e → ∀ name ∈ e.spec.allowedRelations,
      ∃ relation e', c.registry.relation e name = .ok (relation, e'))
    (htables : ∀ e, c.registry.Reaches target e → catalog.hasTable e.table = true)
    (hscopes : ∀ e, c.registry.Reaches target e → ∀ name ∈ e.spec.allowedRelations,
      ∀ key, c.settings.broadKey ≠ scopeName name ++ "_" ++ key)
    (hreserved : c.settings.broadKey ∉ TimeRange.parameterNames)
    (hrelations : c.settings.broadKey ≠ broadRelationsKey)
    (hv : v.cleaned c.settings.broadKey = .ok v') (hblank : v.isBlank = false)
    (hdepth : c.registry.entities.length ≤ c.settings.maxDepth) :
    ∃ result, c.compile catalog entity (.value (.map [(.str c.settings.broadKey, v)])) options
        clock = .ok result ∧
      result.visited.Nodup ∧
      (∀ x, x ∈ result.visited ↔ ∃ e, c.registry.Reaches target e ∧ e.name = x) ∧
      ∀ e, c.registry.Reaches target e →
        result.predicate.joins.count e.name = if e = target then 0 else 1 := by
  have hregistered : c.registry.Registered target := Registry.registered_of_get hentity
  have hblank' : v'.isBlank = false := (Value.isBlank_of_cleaned hv).trans hblank
  have hspan : (c.context options [] catalog).Spannable target := by
    refine ⟨hregistered, hresolves, fun e he => ?_, hscopes⟩
    exact Catalog.exists_table_of_hasTable (htables e he)
  have hleft : c.registry.unseen [] ≤ c.settings.maxDepth + 1 :=
    (c.registry.unseen_le []).trans (by omega)
  obtain ⟨walked, hwalked, hspanned⟩ := (SearchContext.spanned_walk (c := c.context options []
    catalog) hfollow hblank' hspan List.not_mem_nil List.nodup_nil hleft).exists_ok
  obtain ⟨table, htable⟩ := hspan.tables target .refl
  have hwalk : c.requestWalk catalog options ⟨target, Bag.single c.settings.broadKey v', []⟩ =
      .ok walked := by
    rw [requestWalk, hbroad]
    exact hwalked
  refine ⟨_, compile_of_parts (prepare_broad hentity hrelations hv) hwalk htable
    (requestRange_broad hblank' hreserved table), nodup_sortedNames _,
    fun x => mem_sortedNames.trans (hspanned.mem_visited hregistered), fun e he => ?_⟩
  show walked.predicate.joins.count e.name = _
  have hvisited : walked.visited = target.name :: walked.predicate.joins := hspanned.visited_eq
  have hnodup := hspanned.nodup
  rw [hvisited, List.nodup_cons] at hnodup
  split
  next hsame =>
    rw [hsame]
    exact List.count_eq_zero_of_not_mem hnodup.1
  next hother =>
    have hmem : e.name ∈ walked.visited := (hspanned.mem_visited hregistered).mpr ⟨e, he, rfl⟩
    rw [hvisited] at hmem
    refine List.count_eq_one_of_mem hnodup.2 ((List.mem_cons.mp hmem).resolve_left fun hname => ?_)
    exact hother ((he.registered hregistered).eq_of_name hregistered hname)

/-- From the pond a broad search goes once round the circle of fish and species. -/
theorem compile_spans_pond :
    ∃ result, Pond.compiler.compile Pond.catalog "Pond" (.value (.map [(.str "q", .str "koi")]))
        Pond.following Pond.clock = .ok result ∧
      result.visited.Nodup ∧
      (∀ x, x ∈ result.visited ↔ ∃ e, Pond.registry.Reaches Pond.pond e ∧ e.name = x) ∧
      ∀ e, Pond.registry.Reaches Pond.pond e →
        result.predicate.joins.count e.name = if e = Pond.pond then 0 else 1 := by
  have hentity : Pond.registry.get "Pond" = .ok Pond.pond := rfl
  have hmem : ∀ e, Pond.registry.Reaches Pond.pond e → e ∈ [Pond.pond, Pond.fish, Pond.species] :=
    fun e he => (he.registered (Registry.registered_of_get hentity)).mem
  refine compile_spans (c := Pond.compiler) hentity rfl rfl (fun e he name hname => ?_)
    (fun e he => ?_) (fun e he name hname key hkey => ?_) (by decide) (by decide) rfl (by decide)
    (by decide)
  · have hall : ∀ e ∈ [Pond.pond, Pond.fish, Pond.species], ∀ name ∈ e.spec.allowedRelations,
        (Pond.registry.relation e name).toBool = true := by decide
    obtain ⟨⟨relation, e'⟩, hrelation⟩ := exists_of_toBool (hall e (hmem e he) name hname)
    exact ⟨relation, e', hrelation⟩
  · have hall : ∀ e ∈ [Pond.pond, Pond.fish, Pond.species],
        Pond.catalog.hasTable e.table = true := by decide
    exact hall e (hmem e he)
  · have hunderscore := Scope.underscore_mem (scopeName name) key
    rw [← hkey] at hunderscore
    exact absurd hunderscore (by decide)

end Compiler

end RelationalSearch
