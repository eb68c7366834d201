import RelationalSearch.Proofs.Refusals

/-!
# The depth of a search

On a graph with cycles two things bring a search to its end. A key loses a name,
and with it an underscore, on the way into every relation, so keys with at most
`u` underscores are used up after `u` relations. The broad-search parameter loses
nothing; when only it is left, a walk goes on to entities that have not been
visited, and a look-ahead to entities that are not on its path, and there are no
more of these than there are entities.

The two measures take turns, because a bag that holds both kinds of keys becomes a
lone broad-search parameter on the way. `RelationalSearch.SearchContext.Enough`
says how much depth a walk needs in each state, and one step of a walk keeps it
(`RelationalSearch.SearchContext.Enough.deeper`). So with a limit of `u` and the
number of entities no search is refused for its depth, and as a search without
refusal is the same under every higher limit
(`RelationalSearch.SearchContext.walk_withLimit`), the limit is no more than a guard.
-/

namespace RelationalSearch

/-- How many underscores a key holds. -/
def underscores (key : String) : Nat := key.toList.count '_'

theorem underscores_written (name key : String) :
    underscores (name ++ "_" ++ key) = underscores name + 1 + underscores key := by
  rw [underscores, String.toList_append, String.toList_append, List.count_append,
    List.count_append]
  rfl

/-- All keys but the broad-search parameter hold fewer than `u` underscores. -/
def Bag.Below (bag : Bag) (broadKey : String) (u : Nat) : Prop :=
  ∀ key ∈ bag.keys, key = broadKey ∨ underscores key < u

namespace SearchContext

variable {c : SearchContext} {e target : Entity} {bag : Bag} {ignoreBroad : Bool} {name : String}
  {left u : Nat} {visited path : List String}

/-- When no underscore is left, nothing but the broad-search parameter is. -/
theorem onlyBroad_of_below (h : bag.Below c.broadKey 0) (hbag : bag.isEmpty = false) :
    c.onlyBroad bag = true := by
  have hall : ∀ key ∈ bag.keys, key = c.broadKey := fun key hkey =>
    (h key hkey).resolve_right (Nat.not_lt_zero _)
  obtain ⟨key, hkey⟩ := Bag.exists_mem_keys hbag
  exact Bag.only_singleton.mpr ⟨hall key hkey ▸ hkey, hall⟩

theorem notDeep_of_columns {err : SearchError} (h : c.columns e = .error err) : err.NotDeep := by
  have hends : Ends (fun _ => True) (fun err => err.kind = .unknownTable) (c.columns e) :=
    (c.catalog.ends_table e.table).map
  exact SearchError.notDeep_of_kind (hends.of_error h) (by decide)

theorem notDeep_of_ownPredicate {err : SearchError}
    (h : c.ownPredicate e bag ignoreBroad = .error err) : err.NotDeep := by
  have hends : Ends (fun _ => True) (fun err => err.kind = .unknownTable)
      (c.ownPredicate e bag ignoreBroad) := (c.catalog.ends_table e.table).map
  exact SearchError.notDeep_of_kind (hends.of_error h) (by decide)

theorem notDeep_of_relation {err : SearchError} (h : c.registry.relation e name = .error err) :
    err.NotDeep :=
  SearchError.notDeep_of_kind (Registry.kind_of_relation_error h) (by decide)

section Within

variable (hscopes : c.registry.ScopesNamed) (halias : '_' ∉ c.broadKey.toList)

include hscopes halias

/-- **Every relation costs an underscore.** -/
theorem below_reaching (he : e ∈ c.registry.entities) (hname : name ∈ e.spec.allowedRelations)
    (h : bag.Below c.broadKey u) :
    (c.reaching e bag ignoreBroad name).Below c.broadKey (u - 1) := by
  intro key hkey
  rcases mem_keys_reaching hkey with ⟨hwritten, -⟩ | ⟨-, hbroad, -⟩
  · rw [hscopes.written_eq he hname] at hwritten
    have hfewer : underscores (scopeName name ++ "_" ++ key) < u := by
      refine (h _ hwritten).resolve_left fun hc => halias ?_
      rw [← hc]
      exact Scope.underscore_mem _ _
    rw [underscores_written] at hfewer
    exact Or.inr (by omega)
  · exact Or.inl hbroad

/-! ### Look-aheads -/

/-- **A look-ahead ends**: its keys use up their underscores, and after that every
entity it comes to is new on its path. -/
theorem findsAny_within (he : e ∈ c.registry.entities) (hbag : bag.Below c.broadKey u)
    (hleft : u + 1 + c.registry.unseen path ≤ left) :
    Ends (fun _ => True) SearchError.NotDeep
      (c.findsAny visited left e bag ignoreBroad path) := by
  induction left generalizing e bag ignoreBroad path u with
  | zero => omega
  | succ left ih =>
    refine ends_findsAny (fun err h => notDeep_of_columns h)
      (fun name err h => notDeep_of_relation h)
      fun name relation target hrelation hback hreaching => ?_
    have hbelow : (c.reaching e bag ignoreBroad name).Below c.broadKey (u - 1) :=
      below_reaching hscopes halias he (Registry.of_relation hrelation).1 hbag
    refine ih (Registry.registered_of_relation hrelation).mem hbelow ?_
    -- Without an underscore left, it is the path that grows by a new entity.
    cases u with
    | zero =>
      have hnew : e.name ∉ path := fun hpath =>
        hback ⟨hpath, onlyBroad_of_below hbag (isEmpty_of_reaching hreaching)⟩
      have := Registry.unseen_lt he hnew (List.subset_cons_self e.name path) List.mem_cons_self
      omega
    | succ u =>
      have := c.registry.unseen_anti (List.subset_cons_self e.name path)
      omega

/-- From an entity that is not on its path, a look-ahead needs one relation less. -/
theorem findsAny_within_of_not_mem (he : e ∈ c.registry.entities) (hnew : e.name ∉ path)
    (hbag : bag.Below c.broadKey u) (hu : 0 < u) (hleft : u + c.registry.unseen path ≤ left) :
    Ends (fun _ => True) SearchError.NotDeep
      (c.findsAny visited left e bag ignoreBroad path) := by
  cases left with
  | zero => omega
  | succ left =>
    refine ends_findsAny (fun err h => notDeep_of_columns h)
      (fun name err h => notDeep_of_relation h) fun name relation target hrelation _ _ => ?_
    have hbelow : (c.reaching e bag ignoreBroad name).Below c.broadKey (u - 1) :=
      below_reaching hscopes halias he (Registry.of_relation hrelation).1 hbag
    have := Registry.unseen_lt he hnew (List.subset_cons_self e.name path) List.mem_cons_self
    refine findsAny_within hscopes halias (Registry.registered_of_relation hrelation).mem hbelow ?_
    omega

omit hscopes halias in
/-- A look-ahead from an entity that a broad search has not visited is answered at
once. -/
theorem findsAny_within_of_broad (honly : c.onlyBroad bag = true) (hnew : e.name ∉ visited)
    (hleft : 0 < left) :
    Ends (fun _ => True) SearchError.NotDeep
      (c.findsAny visited left e bag false []) := by
  cases left with
  | zero => exact absurd hleft (Nat.lt_irrefl 0)
  | succ left =>
    rw [findsAny_of_not_mem honly hnew]
    exact Ends.bind (Ends.intro (fun _ _ => .result trivial) fun _ h => notDeep_of_columns h)

end Within

/-! ### Walks -/

/-- **The depth that a walk needs**: as many relations as there can be underscores
in a key, and then as many as there are entities; when nothing but the
broad-search parameter is left, as many as there are entities that have not been
visited, and the entity of the walk is one of them. -/
def Enough (c : SearchContext) (u left : Nat) (e : Entity) (visited : List String) : Prop :=
  (0 < u ∧ u + c.registry.entities.length ≤ left) ∨
    (u = 0 ∧ e.name ∉ visited ∧ c.registry.unseen visited ≤ left)

/-- **One relation further, what is left is enough**, if a lone broad-search
parameter goes to an entity that has not been visited. -/
theorem Enough.deeper {visited' : List String} (h : c.Enough u (left + 1) e visited)
    (he : e ∈ c.registry.entities) (hvisited : e.name ∈ visited' ∧ visited ⊆ visited')
    (hnew : u - 1 = 0 → target.name ∉ visited') : c.Enough (u - 1) left target visited' := by
  rcases h with ⟨hu, hleft⟩ | ⟨rfl, hunvisited, hleft⟩
  · rcases Nat.eq_zero_or_pos (u - 1) with hlast | hmore
    · have := c.registry.unseen_le visited'
      exact Or.inr ⟨hlast, hnew hlast, by omega⟩
    · exact Or.inl ⟨hmore, by omega⟩
  · have := Registry.unseen_lt he hunvisited hvisited.2 hvisited.1
    exact Or.inr ⟨rfl, hnew rfl, by omega⟩

section Within

variable (hscopes : c.registry.ScopesNamed) (halias : '_' ∉ c.broadKey.toList)

include hscopes halias

/-- **A walk ends** when it has enough depth. -/
theorem walk_within (he : e ∈ c.registry.entities) (hbag : bag.Below c.broadKey u)
    (h : c.Enough u left e visited) :
    Ends (fun _ => True) SearchError.NotDeep
      (c.walk left e bag ignoreBroad visited).value := by
  induction left generalizing e bag ignoreBroad visited u with
  | zero =>
    rcases h with ⟨hu, hleft⟩ | ⟨-, hnew, hleft⟩
    · omega
    · have := Registry.unseen_pos he hnew
      omega
  | succ left ih =>
    -- What has been found so far counts the visits: the entity itself and all before it.
    refine (ends_walk (fun _ found => e.name ∈ found.visited ∧ visited ⊆ found.visited)
      (fun err hown => notDeep_of_ownPredicate hown) (fun own _ => ?_)
      fun done name found _ hinv => ?_).mono (fun _ _ => trivial) fun _ h => h
    · exact ⟨mem_noteVisit.mpr (Or.inl rfl), fun x hx => mem_noteVisit.mpr (Or.inr hx)⟩
    · -- A relation that is looked into or entered has enough depth.
      have hdeeper : ∀ relation target, c.registry.relation e name = .ok (relation, target) →
          (c.reaching e bag ignoreBroad name).isEmpty = false →
          ¬(c.onlyBroad (c.reaching e bag ignoreBroad name) = true ∧ target.name ∈ found.visited) →
          (c.reaching e bag ignoreBroad name).Below c.broadKey (u - 1) ∧
            c.Enough (u - 1) left target found.visited := by
        intro relation target hrelation hreaching hvisited
        have hbelow : (c.reaching e bag ignoreBroad name).Below c.broadKey (u - 1) :=
          below_reaching hscopes halias he (Registry.of_relation hrelation).1 hbag
        refine ⟨hbelow, h.deeper he hinv fun hlast hmem => hvisited ⟨?_, hmem⟩⟩
        rw [hlast] at hbelow
        exact onlyBroad_of_below hbelow hreaching
      refine ends_hop (fun err hrelation => notDeep_of_relation hrelation)
        (fun relation target err hrelation herr => ?_) (fun _ _ _ _ => hinv)
        fun relation target hrelation henters => ?_
      · suffices hlook : Ends (fun _ => True) SearchError.NotDeep
            (c.entersRelation found.visited left target (c.reaching e bag ignoreBroad name)
              (c.carriesBroad e ignoreBroad name)) from hlook.of_error herr
        refine ends_entersRelation fun hreaching hvisited => ?_
        obtain ⟨hbelow, henough⟩ := hdeeper relation target hrelation hreaching hvisited
        rcases henough with ⟨hu, hleft⟩ | ⟨hu, hnew, hleft⟩
        · have htarget := (Registry.registered_of_relation hrelation).mem
          have := c.registry.unseen_le []
          exact findsAny_within_of_not_mem hscopes halias htarget List.not_mem_nil hbelow hu
            (by omega)
        · -- Only the broad-search parameter is left, so it went into the relation.
          rw [hu] at hbelow
          have honly := onlyBroad_of_below hbelow hreaching
          rw [carriesBroad_of_mem (Bag.only_singleton.mp honly).1]
          have := Registry.unseen_pos (Registry.registered_of_relation hrelation).mem hnew
          exact findsAny_within_of_broad honly hnew (by omega)
      · obtain ⟨hreaching, hvisited, -⟩ := of_entersRelation henters
        obtain ⟨hbelow, henough⟩ := hdeeper relation target hrelation hreaching hvisited
        have htarget := (Registry.registered_of_relation hrelation).mem
        refine ((ih htarget hbelow henough).and (visited_walk _ _ _ _ _)).mono
          (fun below hbelow => ?_) fun _ h => h.1
        exact ⟨hbelow.2.2 hinv.1, fun x hx => hbelow.2.2 (hinv.2 hx)⟩

end Within

/-! ### Other limits

Nothing but the message of a refusal depends on the limit, so what a search finds
with little depth it also finds with more. -/

/-- The same surroundings with another limit of depth. -/
def withLimit (c : SearchContext) (limit : Nat) : SearchContext := { c with maxDepth := limit }

section Limit

variable {limit left' : Nat}

@[simp] theorem registry_withLimit : (c.withLimit limit).registry = c.registry := rfl

@[simp] theorem onlyBroad_withLimit : (c.withLimit limit).onlyBroad bag = c.onlyBroad bag := rfl

@[simp] theorem columns_withLimit : (c.withLimit limit).columns e = c.columns e := rfl

@[simp] theorem ownPredicate_withLimit :
    (c.withLimit limit).ownPredicate e bag ignoreBroad = c.ownPredicate e bag ignoreBroad := rfl

@[simp] theorem carriesBroad_withLimit :
    (c.withLimit limit).carriesBroad e ignoreBroad name = c.carriesBroad e ignoreBroad name := rfl

@[simp] theorem reaching_withLimit :
    (c.withLimit limit).reaching e bag ignoreBroad name = c.reaching e bag ignoreBroad name := rfl

/-- **A look-ahead with an answer has the same answer under a higher limit.** -/
theorem findsAny_withLimit (hleft : left ≤ left') {answer : Bool}
    (h : c.findsAny visited left e bag ignoreBroad path = .ok answer) :
    (c.withLimit limit).findsAny visited left' e bag ignoreBroad path = .ok answer := by
  induction left generalizing e bag ignoreBroad path left' answer with
  | zero => cases h
  | succ left ih =>
    obtain ⟨left', rfl⟩ : ∃ n, left' = n + 1 := ⟨left' - 1, by omega⟩
    rw [findsAny_succ] at h ⊢
    rw [onlyBroad_withLimit, columns_withLimit]
    split at h
    next hback => rw [if_pos hback, h]
    next hback =>
      obtain ⟨columns, hcolumns, h⟩ := exists_of_bind_ok h
      rw [if_neg hback, hcolumns, Except.bind]
      split at h
      next hkeys => rw [if_pos hkeys, h]
      next hkeys =>
        rw [if_neg hkeys]
        split at h
        next hnew => rw [if_pos hnew, h]
        next hnew =>
          rw [if_neg hnew]
          refine anyM_of_forall (fun name _ found hfound => ?_) h
          rcases hrelation : c.registry.relation e name with err | ⟨relation, target⟩
          · simp only [findsBelow, hrelation, bind, Except.bind, reduceCtorEq] at hfound
          · have hrelation' : (c.withLimit limit).registry.relation e name =
                .ok (relation, target) := hrelation
            rw [findsBelow_of_relation hrelation] at hfound
            rw [findsBelow_of_relation hrelation', reaching_withLimit, carriesBroad_withLimit]
            split at hfound
            next hempty => rw [if_pos hempty, hfound]
            next hempty =>
              rw [if_neg hempty]
              exact ih (by omega) hfound

/-- **A walk with a result has the same result under a higher limit.** -/
theorem walk_withLimit (hleft : left ≤ left') {walked : Walked}
    (h : (c.walk left e bag ignoreBroad visited).value = .ok walked) :
    ((c.withLimit limit).walk left' e bag ignoreBroad visited).value = .ok walked := by
  induction left generalizing e bag ignoreBroad visited left' walked with
  | zero => cases h
  | succ left ih =>
    obtain ⟨left', rfl⟩ : ∃ n, left' = n + 1 := ⟨left' - 1, by omega⟩
    rw [walk_succ] at h ⊢
    obtain ⟨own, hown, h⟩ := exists_of_bind_ok h
    rw [ownPredicate_withLimit, hown]
    refine foldlM_of_forall (fun found name found' hhop => ?_) h
    -- One step takes the same decision, and then the walk below has the same result.
    rw [hop] at hhop ⊢
    obtain ⟨⟨relation, target⟩, hrelation, hhop⟩ := exists_of_bind_ok hhop
    obtain ⟨enters, henters, hhop⟩ := exists_of_bind_ok hhop
    have henters' : (c.withLimit limit).entersRelation found.visited left' target
        (c.reaching e bag ignoreBroad name) (c.carriesBroad e ignoreBroad name) = .ok enters := by
      rw [entersRelation] at henters ⊢
      split at henters
      next hempty => rw [if_pos hempty, henters]
      next hempty =>
        rw [if_neg hempty, onlyBroad_withLimit]
        split at henters
        next hvisited => rw [if_pos hvisited, henters]
        next hvisited =>
          rw [if_neg hvisited]
          exact findsAny_withLimit (by omega) henters
    rw [registry_withLimit, hrelation, reaching_withLimit, carriesBroad_withLimit]
    simp only [bind, Except.bind, henters']
    cases enters with
    | false => exact hhop
    | true =>
      obtain ⟨below, hbelow, hhop⟩ := exists_of_bind_ok hhop
      have hbelow' : ((c.withLimit limit).walk left' target (c.reaching e bag ignoreBroad name)
          (!(c.carriesBroad e ignoreBroad name)) found.visited).value = .ok below :=
        ih (by omega) hbelow
      simp only [if_true, hbelow']
      exact hhop

end Limit

end SearchContext

/-! ### Searches -/

/-- However a source is read, its keys hold at most `u` underscores each. -/
def Source.KeysWithin (source : Source) (broadKey : String) (u : Nat) : Prop :=
  ∀ bag, source.searchInput broadKey = .ok bag ∨ source.toBag = .ok bag →
    ∀ key ∈ bag.keys, underscores key ≤ u

/-- The keys of the bag of a table are keys of the table. -/
theorem Bag.ends_keys_ofTable (entries : List (Value × Value)) :
    Ends (fun bag => ∀ key ∈ bag.keys, ∃ v, (Value.str key, v) ∈ entries) (fun _ => True)
      (ofTable entries) := by
  refine Ends.foldlM
    (fun done (bag : Bag) => ∀ key ∈ bag.keys, ∃ v, (Value.str key, v) ∈ done)
    (fun key hkey => absurd hkey not_mem_keys_empty) fun done e bag _ hinv => ?_
  have hold : ∀ key ∈ bag.keys, ∃ v, (Value.str key, v) ∈ done ++ [e] := fun key hkey => by
    obtain ⟨v, hv⟩ := hinv key hkey
    exact ⟨v, List.mem_append_left _ hv⟩
  rcases e with ⟨k, v⟩
  cases k with
  | str name =>
    refine Ends.map (Ends.intro (fun v' _ key hkey => ?_) fun _ _ => trivial)
    rcases mem_keys_put.mp hkey with rfl | hkey
    · exact ⟨v, List.mem_append_right _ (List.mem_singleton.mpr rfl)⟩
    · exact hold key hkey
  | _ => exact .failure trivial

/-- A table whose keys hold at most `u` underscores. -/
theorem Source.keysWithin_map {entries : List (Value × Value)} {broadKey : String} {u : Nat}
    (h : ∀ key v, (Value.str key, v) ∈ entries → underscores key ≤ u) :
    (Source.value (.map entries)).KeysWithin broadKey u := by
  intro bag hbag key hkey
  have htable : (Bag.ofTable entries).mapError Failure.refused = .ok bag := hbag.elim id id
  obtain ⟨v, hv⟩ := (Bag.ends_keys_ofTable entries).of_ok (ok_of_mapError_ok htable) key hkey
  exact h key v hv

namespace Compiler

variable {c : Compiler} {catalog : Catalog} {entity : String} {source : Source}
  {options : SearchOptions} {clock : Clock} {ignoreBroad : Bool} {u : Nat}

/-- The same compiler with another limit of depth. -/
def withLimit (c : Compiler) (limit : Nat) (hlimit : 0 < limit) : Compiler :=
  { c with settings := { c.settings with maxDepth := limit, maxDepth_pos := hlimit } }

/-- A search is not refused for its depth when the limit allows a relation for
every underscore and every entity. -/
theorem ends_compile (halias : '_' ∉ c.settings.broadKey.toList) (hscopes : c.registry.ScopesNamed)
    (hkeys : source.KeysWithin c.settings.broadKey u)
    (hlimit : u + c.registry.entities.length ≤ c.settings.maxDepth) :
    Ends (fun _ => True) Failure.NotDeep (c.compile catalog entity source options clock) := by
  rw [compile_eq]
  refine Ends.bind (Ends.intro (fun request hrequest => ?_) fun _ => (ends_prepare _ _ _).of_error)
  obtain ⟨hregistered, hbag, -⟩ := parts_of_prepare hrequest
  have hbelow : request.bag.Below c.settings.broadKey (u + 1) := fun key hkey =>
    Or.inr (Nat.lt_succ_of_le (hkeys request.bag (Or.inl hbag) key hkey))
  have hwalk : Ends (fun _ => True) SearchError.NotDeep (c.requestWalk catalog options request) :=
    SearchContext.walk_within (c := c.context options request.requested catalog) hscopes halias
      (Registry.registered_of_get hregistered).mem hbelow
      (Or.inl ⟨Nat.succ_pos u, by
        show u + 1 + c.registry.entities.length ≤ c.settings.maxDepth + 1
        omega⟩)
  refine hwalk.refused_notDeep.bind_of_forall fun walked => ?_
  refine ((catalog.ends_table _).refused.notDeep (by decide)).bind_of_forall fun table => ?_
  exact ((TimeRange.ends_resolve _ _ _ _ _).notDeep (by decide)).bind_of_forall fun range =>
    .result trivial

/-- So is the question whether there is anything to search for. -/
theorem ends_finds (halias : '_' ∉ c.settings.broadKey.toList) (hscopes : c.registry.ScopesNamed)
    (hkeys : source.KeysWithin c.settings.broadKey u)
    (hlimit : u + c.registry.entities.length ≤ c.settings.maxDepth) :
    Ends (fun _ => True) Failure.NotDeep (c.finds catalog entity source ignoreBroad) := by
  rw [finds_eq]
  refine Ends.bind (Ends.intro (fun request hrequest => ?_) fun _ =>
    (ends_prepareQuestion _ _ _ _).of_error)
  obtain ⟨hregistered, bag, hbag, hscoped⟩ := parts_of_prepareQuestion hrequest
  have hbelow : request.bag.Below c.settings.broadKey (u + 1) := by
    intro key hkey
    rw [hscoped] at hkey
    exact Or.inr (Nat.lt_succ_of_le (hkeys bag (Or.inr hbag) key (mem_keys_of_scopedTo hkey)))
  have hunseen := c.registry.unseen_le []
  refine Ends.refused_notDeep (SearchContext.findsAny_within_of_not_mem
    (c := c.context SearchOptions.plain request.requested catalog) hscopes halias
    (Registry.registered_of_get hregistered).mem List.not_mem_nil hbelow (Nat.succ_pos u) ?_)
  show u + 1 + c.registry.unseen [] ≤ c.settings.maxDepth + 1
  omega

/-- **What a search finds, it finds under every higher limit.** -/
theorem compile_withLimit {limit limit' : Nat} {hlimit : 0 < limit} {hlimit' : 0 < limit'}
    (hle : limit ≤ limit') {result : CompiledSearch}
    (h : (c.withLimit limit hlimit).compile catalog entity source options clock = .ok result) :
    (c.withLimit limit' hlimit').compile catalog entity source options clock = .ok result := by
  obtain ⟨request, walked, table, timeRange, hrequest, hwalked, htable, hrange, rfl⟩ :=
    parts_of_compile h
  have hrequest' : (c.withLimit limit' hlimit').prepare entity source = .ok request := hrequest
  have hwalked' : (c.withLimit limit' hlimit').requestWalk catalog options request = .ok walked :=
    SearchContext.walk_withLimit (by exact Nat.succ_le_succ hle) hwalked
  exact compile_of_parts hrequest' hwalked' htable hrange

/-- **The limit of depth is only a guard.** However many cycles the relations make,
a search with keys of at most `u` underscores is never refused as a configuration
error when the limit is at least `u` and the number of entities, and neither is the
question whether there is anything to search for; and a search that succeeds under
one limit gives the same result under every higher one. -/
theorem limit_is_guard {u : Nat} (halias : '_' ∉ c.settings.broadKey.toList)
    (hscopes : c.registry.ScopesNamed) (hkeys : source.KeysWithin c.settings.broadKey u) :
    (u + c.registry.entities.length ≤ c.settings.maxDepth →
        (∀ failure, c.compile catalog entity source options clock = .error failure →
          ¬failure.IsConfigurationError) ∧
        ∀ ignoreBroad failure, c.finds catalog entity source ignoreBroad = .error failure →
          ¬failure.IsConfigurationError) ∧
      ∀ limit limit' (hlimit : 0 < limit) (hlimit' : 0 < limit'), limit ≤ limit' → ∀ result,
        (c.withLimit limit hlimit).compile catalog entity source options clock = .ok result →
        (c.withLimit limit' hlimit').compile catalog entity source options clock = .ok result := by
  refine ⟨fun hlimit => ⟨fun failure h => ?_, fun ignoreBroad failure h => ?_⟩, ?_⟩
  · exact (ends_compile halias hscopes hkeys hlimit).of_error h
  · exact (ends_finds halias hscopes hkeys hlimit).of_error h
  · exact fun limit limit' hlimit hlimit' hle result h => compile_withLimit hle h

/-- Keys with three underscores on a circle of three entities stay within the usual
limit. -/
theorem limit_is_guard_pond :
    ((∀ failure, Pond.compiler.compile Pond.catalog "Pond" Pond.addressed Pond.ignoring
        Pond.clock = .error failure → ¬failure.IsConfigurationError) ∧
      ∀ ignoreBroad failure, Pond.compiler.finds Pond.catalog "Pond" Pond.addressed ignoreBroad =
        .error failure → ¬failure.IsConfigurationError) ∧
      ∀ limit limit' (hlimit : 0 < limit) (hlimit' : 0 < limit'), limit ≤ limit' → ∀ result,
        (Pond.compiler.withLimit limit hlimit).compile Pond.catalog "Pond" Pond.addressed
          Pond.ignoring Pond.clock = .ok result →
        (Pond.compiler.withLimit limit' hlimit').compile Pond.catalog "Pond" Pond.addressed
          Pond.ignoring Pond.clock = .ok result := by
  have hkeys : Pond.addressed.KeysWithin "q" 3 := by
    refine Source.keysWithin_map fun key v h => ?_
    rcases List.mem_cons.mp h with h | h
    · cases h
      decide
    · cases List.mem_singleton.mp h
      decide
  have hguard := @limit_is_guard Pond.compiler Pond.catalog "Pond" Pond.addressed Pond.ignoring
    Pond.clock 3 (by decide) Pond.scopesNamed hkeys
  exact ⟨hguard.1 (by decide), hguard.2⟩

end Compiler

end RelationalSearch
