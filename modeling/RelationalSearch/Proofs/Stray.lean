import RelationalSearch.Proofs.Hop
import RelationalSearch.Proofs.Removal

/-!
# Parameters that address nothing

Reading scope names off the front of a key, along relations that resolve, leaves a
rest at an entity (`RelationalSearch.Registry.Reads`). A key is **stray** when no
such rest is a searchable column or the broad-search parameter
(`RelationalSearch.SearchContext.Stray`). No predicate looks at a stray parameter,
and a look-ahead that has nothing else finds nothing
(`RelationalSearch.SearchContext.not_findsAny_of_stray`).

There is one thing that a stray parameter can do. A broad search treats an entity
in a way of its own when the share of the parameters that reaches it is nothing but
the broad-search parameter, and a stray parameter that comes along makes the share
into something else. It is said to *cross* the broad search
(`RelationalSearch.SearchContext.Crosses`). A stray parameter that crosses no broad
search can be taken out: two walks, one with it and one without, take the same
decisions and have the same result
(`RelationalSearch.SearchContext.walk_without`).
-/

namespace RelationalSearch

/-- **Reading scope names off the front of a key**: the rest that is left of it, and
the entity that the relations lead to. -/
inductive Registry.Reads (r : Registry) : Entity → String → Entity → String → Prop
  /-- No name is read. -/
  | here (e : Entity) (key : String) : Reads r e key e key
  /-- The name of a relation is read, and then the rest is read at its target. -/
  | through {e target last : Entity} {name key rest : String} {relation : Relation} :
      r.relation e name = .ok (relation, target) → Reads r target key last rest →
      Reads r e (Scope.written (scopeName name) key) last rest

namespace SearchContext

variable {c : SearchContext} {e target : Entity} {name k key : String} {relation : Relation}
  {bag bag' : Bag} {ignoreBroad : Bool} {left : Nat} {visited path : List String}

/-! ### Stray keys -/

/-- **A key that addresses nothing**: whatever scope names are read off its front, the
rest is neither the broad-search parameter nor a searchable column. -/
def Stray (c : SearchContext) (e : Entity) (key : String) : Prop :=
  ∀ last rest, c.registry.Reads e key last rest → rest ≠ c.broadKey ∧
    ∀ table, c.table last = .ok table →
      rest ∉ Catalog.searchable table last.spec.excludedKeys c.columnAlias

theorem Stray.ne_broad (h : c.Stray e k) : k ≠ c.broadKey := (h e k (.here e k)).1

theorem Stray.not_mem_columns (h : c.Stray e k) {columns : List String}
    (hcolumns : c.columns e = .ok columns) : k ∉ columns := by
  obtain ⟨table, htable, rfl⟩ := exists_of_map_ok hcolumns
  exact (h e k (.here e k)).2 table htable

/-- What is left of a stray key behind the name of a relation is stray. -/
theorem Stray.through (h : c.Stray e (Scope.written (scopeName name) k))
    (hrelation : c.registry.relation e name = .ok (relation, target)) : c.Stray target k :=
  fun last rest hreads => h last rest (.through hrelation hreads)

/-- Out of a bag of stray parameters only stray ones reach a relation. -/
theorem stray_of_reaching (h : ∀ key ∈ bag.keys, c.Stray e key)
    (hrelation : c.registry.relation e name = .ok (relation, target)) :
    ∀ key ∈ (c.reaching e bag ignoreBroad name).keys, c.Stray target key := by
  intro key hkey
  rcases mem_keys_reaching hkey with ⟨hwritten, -⟩ | ⟨-, rfl, hbroad⟩
  · exact (h _ hwritten).through hrelation
  · exact absurd rfl (h _ hbroad).ne_broad

/-- **A look-ahead finds nothing in stray parameters.** -/
theorem not_findsAny_of_stray (h : ∀ key ∈ bag.keys, c.Stray e key) :
    c.findsAny visited left e bag ignoreBroad path ≠ .ok true := by
  intro hfound
  induction left generalizing e bag ignoreBroad path with
  | zero => cases hfound
  | succ left ih =>
    obtain ⟨-, columns, hcolumns, hkeys | ⟨-, honly, -⟩ | ⟨name, -, hbelow⟩⟩ :=
      of_findsAny_true hfound
    · obtain ⟨key, hkey, hcolumn⟩ := hkeys
      exact (h key hkey).not_mem_columns hcolumns hcolumn
    · exact (h _ (Bag.only_singleton.mp honly).1).ne_broad rfl
    · obtain ⟨relation, target, hrelation, -, hbelow⟩ := of_findsBelow_true hbelow
      exact ih (stray_of_reaching h hrelation) hbelow

/-! ### Crossing a broad search -/

/-- **A parameter crosses a broad search** when a rest of its key arrives at an entity
together with nothing but the broad-search parameter, on a way on which this parameter
is carried. Where a name is dropped from the front of a key an empty rest does not
arrive. -/
inductive Crosses (c : SearchContext) : Entity → Bag → String → Prop
  /-- It does so in a relation of the entity. -/
  | here {e target : Entity} {bag : Bag} {name rest : String} {relation : Relation} :
      c.registry.relation e name = .ok (relation, target) → c.propagates e name = true →
      (rest ≠ "" ∨ scopeName name = "") → c.onlyBroad (c.reaching e bag false name) = true →
      Crosses c e bag (Scope.written (scopeName name) rest)
  /-- It does so further on. -/
  | further {e target : Entity} {bag : Bag} {name rest : String} {relation : Relation} :
      c.registry.relation e name = .ok (relation, target) → c.propagates e name = true →
      Crosses c target (c.reaching e bag false name) rest →
      Crosses c e bag (Scope.written (scopeName name) rest)

/-- **A parameter that can be taken out** of the bag of an entity: its key is stray,
and it crosses no broad search. -/
structure Removable (c : SearchContext) (e : Entity) (bag : Bag) (ignoreBroad : Bool)
    (k : String) : Prop where
  stray : c.Stray e k
  not_crosses : ignoreBroad = false → ¬c.Crosses e (bag.without [k]) k

/-- What reaches a relation out of a bag without one parameter. -/
theorem reaching_without (e : Entity) (bag : Bag) (ignoreBroad : Bool) (hk : k ≠ c.broadKey)
    (hrest : ∀ rest, k = Scope.written (scopeName name) rest → rest ≠ c.broadKey) :
    c.reaching e (bag.without [k]) ignoreBroad name = c.reaching e bag ignoreBroad name ∨
      ∃ rest, k = Scope.written (scopeName name) rest ∧ (rest ≠ "" ∨ scopeName name = "") ∧
        c.reaching e (bag.without [k]) ignoreBroad name =
          (c.reaching e bag ignoreBroad name).without [rest] := by
  unfold scopeName at hrest ⊢
  unfold SearchContext.reaching relationParameters
  generalize hscope : Scope.mk [] (scopeKey name) (!(c.carriesBroad e ignoreBroad name)) c.broadKey =
    scope
  have hname : scopeKey name = scope.name := by rw [← hscope]
  have hbroad : c.broadKey = scope.broadKey := by rw [← hscope]
  rw [hname, hbroad] at hrest
  rw [hbroad] at hk
  rw [hname]
  exact Scope.apply_without scope bag hk hrest

/-- **What reaches a relation without a removable parameter**: the same, or what lacks
a parameter that is removable there and is in neither case the broad-search parameter
alone. -/
theorem Removable.reaching (h : c.Removable e bag ignoreBroad k)
    (hrelation : c.registry.relation e name = .ok (relation, target)) :
    c.reaching e (bag.without [k]) ignoreBroad name = c.reaching e bag ignoreBroad name ∨
      ∃ rest, c.Removable target (c.reaching e bag ignoreBroad name)
          (!(c.carriesBroad e ignoreBroad name)) rest ∧
        c.reaching e (bag.without [k]) ignoreBroad name =
          (c.reaching e bag ignoreBroad name).without [rest] ∧
        c.onlyBroad (c.reaching e (bag.without [k]) ignoreBroad name) = false ∧
        c.onlyBroad (c.reaching e bag ignoreBroad name) = false := by
  have hstray : ∀ rest, k = Scope.written (scopeName name) rest → c.Stray target rest := by
    intro rest hk
    have hstray := h.stray
    rw [hk] at hstray
    exact hstray.through hrelation
  rcases reaching_without e bag ignoreBroad h.stray.ne_broad
      (fun rest hrest => (hstray rest hrest).ne_broad) with hsame | ⟨rest, hk, harrives, hreaching⟩
  · exact Or.inl hsame
  by_cases hrest : rest ∈ (c.reaching e bag ignoreBroad name).keys
  · -- The broad-search parameter is carried, and then nothing is crossed, or it is dropped.
    have hcarried : c.carriesBroad e ignoreBroad name = true →
        ignoreBroad = false ∧ c.propagates e name = true := by
      intro hcarries
      simpa [carriesBroad] using hcarries
    refine Or.inr ⟨rest, ⟨hstray rest hk, fun hbroad hcrosses => ?_⟩, hreaching, ?_, ?_⟩
    · obtain ⟨hignore, hpropagates⟩ := hcarried (by simpa using hbroad)
      refine h.not_crosses hignore ?_
      rw [← hreaching, hignore] at hcrosses
      rw [hk]
      rw [hk] at hcrosses
      exact .further hrelation hpropagates hcrosses
    · rw [Bool.eq_false_iff]
      intro honly
      cases hcarries : c.carriesBroad e ignoreBroad name with
      | true =>
        obtain ⟨hignore, hpropagates⟩ := hcarried hcarries
        refine h.not_crosses hignore ?_
        rw [hignore, hk] at honly
        rw [hk]
        exact .here hrelation hpropagates harrives honly
      | false =>
        rw [SearchContext.reaching, hcarries] at honly
        exact absurd onlyBroad_relationParameters (by rw [Bool.not_false] at honly; rw [honly]; decide)
    · exact Bag.only_false_of_mem hrest (hstray rest hk).ne_broad
  · left
    rwa [Bag.without_of_not_mem hrest] at hreaching

/-! ### Two walks -/

/-- The predicate of an entity's own columns does not change. -/
theorem ownPredicate_without (h : c.Stray e k) :
    c.ownPredicate e (bag.without [k]) ignoreBroad = c.ownPredicate e bag ignoreBroad := by
  have hdata : c.ownParameters e (bag.without [k]) ignoreBroad =
      (c.ownParameters e bag ignoreBroad).without [k] :=
    Scope.apply_without_of_unnamed _ _ h.ne_broad rfl
  rw [ownPredicate, ownPredicate, hdata, Bag.filled_without (Ne.symm h.ne_broad)]
  cases htable : c.table e with
  | error err => simp only [Except.map]
  | ok table =>
    refine congrArg Except.ok (buildPredicate_without ?_ h.ne_broad fun hbroad => ?_)
    · exact (h e k (.here e k)).2 table htable
    · exact Bag.mem_keys_of_filled (Bool.and_eq_true_iff.mp hbroad).2

/-- When the share of a relation has become empty without a stray parameter, nothing
was found in it with the parameter either. -/
theorem findsAny_without_of_isEmpty {rest : String} (h : c.Stray e rest)
    (hempty : (bag.without [rest]).isEmpty = true) :
    c.findsAny visited left e bag ignoreBroad path ≠ .ok true := by
  refine not_findsAny_of_stray fun key hkey => ?_
  have hnot : key ∉ (bag.without [rest]).keys := by
    rw [Bag.isEmpty_iff.mp hempty]
    exact List.not_mem_nil
  rw [Bag.mem_keys_without, not_and_not_right] at hnot
  rwa [hnot hkey]

/-- Looking into a share of the parameters, unless it is empty, has the same answer
without a removable parameter, given that look-ahead has. -/
theorem eq_of_findsAny_unless_isEmpty {answer answer' : Bool}
    (h : c.Stray e k)
    (hagree : ∀ answer answer',
      c.findsAny visited left e (bag.without [k]) ignoreBroad path = .ok answer →
      c.findsAny visited left e bag ignoreBroad path = .ok answer' → answer = answer')
    (hless : (if (bag.without [k]).isEmpty then .ok false
      else c.findsAny visited left e (bag.without [k]) ignoreBroad path) = .ok answer)
    (hmore : (if bag.isEmpty then .ok false
      else c.findsAny visited left e bag ignoreBroad path) = .ok answer') : answer = answer' := by
  cases hempty : (bag.without [k]).isEmpty with
  | true =>
    rw [hempty, if_pos rfl] at hless
    cases hless
    split at hmore
    next => exact Except.ok.inj hmore
    next =>
      cases answer' with
      | false => rfl
      | true => exact absurd hmore (findsAny_without_of_isEmpty h hempty)
  | false =>
    have hbag : bag.isEmpty = false := by
      rw [Bool.eq_false_iff]
      exact fun hbag => absurd (Bag.isEmpty_without hbag) (by rw [hempty]; decide)
    rw [hempty, if_neg (by decide)] at hless
    rw [hbag, if_neg (by decide)] at hmore
    exact hagree answer answer' hless hmore

/-- **A look-ahead has the same answer without a removable parameter**, as long as it
is in neither case about the broad-search parameter alone. -/
theorem findsAny_without {answer answer' : Bool} (h : c.Removable e bag ignoreBroad k)
    (honly : c.onlyBroad (bag.without [k]) = false) (honly' : c.onlyBroad bag = false)
    (hless : c.findsAny visited left e (bag.without [k]) ignoreBroad path = .ok answer)
    (hmore : c.findsAny visited left e bag ignoreBroad path = .ok answer') : answer = answer' := by
  induction left generalizing e bag ignoreBroad k path answer answer' with
  | zero => cases hless
  | succ left ih =>
    rw [findsAny_succ, honly, Bool.and_false, if_neg (by decide)] at hless
    rw [findsAny_succ, honly', Bool.and_false, if_neg (by decide)] at hmore
    obtain ⟨columns, hcolumns, hless⟩ := exists_of_bind_ok hless
    obtain ⟨columns', hcolumns', hmore⟩ := exists_of_bind_ok hmore
    obtain rfl : columns = columns' := Except.ok.inj (hcolumns.symm.trans hcolumns')
    have hkeys : (bag.without [k]).keys.any columns.contains = bag.keys.any columns.contains := by
      rw [Bool.eq_iff_iff, List.any_eq_true, List.any_eq_true]
      constructor
      · rintro ⟨key, hkey, hcolumn⟩
        exact ⟨key, (Bag.mem_keys_without.mp hkey).1, hcolumn⟩
      · rintro ⟨key, hkey, hcolumn⟩
        refine ⟨key, Bag.mem_keys_without.mpr ⟨hkey, ?_⟩, hcolumn⟩
        rintro rfl
        exact h.stray.not_mem_columns hcolumns (List.contains_iff_mem.mp hcolumn)
    rw [hkeys] at hless
    simp only [Bool.and_false, Bool.false_and, Bool.false_eq_true, if_false] at hless hmore
    split at hless
    next hfound =>
      rw [if_pos hfound] at hmore
      exact Except.ok.inj (hless.symm.trans hmore)
    next hfound =>
      rw [if_neg hfound] at hmore
      -- Neither answers by its columns, so both ask their relations one by one.
      refine anyM_pair (fun name _ answer answer' hless hmore => ?_) hless hmore
      rcases hrelation : c.registry.relation e name with err | ⟨relation, target⟩
      · simp only [findsBelow, hrelation, bind, Except.bind, reduceCtorEq] at hless
      · rw [findsBelow_of_relation hrelation] at hless hmore
        rcases h.reaching hrelation with hsame | ⟨rest, hrest, hreaching, honly, honly'⟩
        · rw [hsame] at hless
          exact Except.ok.inj (hless.symm.trans hmore)
        · rw [hreaching] at hless honly
          exact eq_of_findsAny_unless_isEmpty hrest.stray
            (fun _ _ hless hmore => ih hrest honly honly' hless hmore) hless hmore

/-- **The decision to search a relation is the same without a removable parameter.** -/
theorem entersRelation_without {answer answer' broad : Bool} (h : c.Removable e bag (!broad) k)
    (honly : c.onlyBroad (bag.without [k]) = false) (honly' : c.onlyBroad bag = false)
    (hless : c.entersRelation visited left e (bag.without [k]) broad = .ok answer)
    (hmore : c.entersRelation visited left e bag broad = .ok answer') : answer = answer' := by
  rw [entersRelation, honly, Bool.false_and] at hless
  rw [entersRelation, honly', Bool.false_and] at hmore
  simp only [Bool.false_eq_true, if_false] at hless hmore
  exact eq_of_findsAny_unless_isEmpty h.stray
    (fun _ _ hless hmore => findsAny_without h honly honly' hless hmore) hless hmore

/-- **One relation of two walks**: with and without a removable parameter a step does
the same, given that the walks below do. -/
theorem hop_without {found next next' : Walked} (h : c.Removable e bag ignoreBroad k)
    (hwalk : ∀ (target : Entity) (inner : Bag) (rest : String) (below below' : Walked),
      c.Removable target inner (!(c.carriesBroad e ignoreBroad name)) rest →
      (c.walk left target (inner.without [rest]) (!(c.carriesBroad e ignoreBroad name))
        found.visited).value = .ok below →
      (c.walk left target inner (!(c.carriesBroad e ignoreBroad name)) found.visited).value =
        .ok below' → below = below')
    (hless : c.hop left e (bag.without [k]) ignoreBroad found name = .ok next)
    (hmore : c.hop left e bag ignoreBroad found name = .ok next') : next = next' := by
  obtain ⟨relation, target, hrelation, hdone⟩ := of_hop hless
  rcases h.reaching hrelation with hsame | ⟨rest, hrest, hreaching, honly, honly'⟩
  · -- Nothing else reaches the relation, and so nothing else is done with it.
    have hstep : c.hop left e (bag.without [k]) ignoreBroad found name =
        c.hop left e bag ignoreBroad found name := by
      simp only [hop, joined, hsame]
    exact Except.ok.inj (hless.symm.trans (hstep.trans hmore))
  · obtain ⟨relation', target', hrelation', hdone'⟩ := of_hop hmore
    obtain ⟨rfl, rfl⟩ : relation = relation' ∧ target = target' :=
      Prod.mk.inj (Except.ok.inj (hrelation.symm.trans hrelation'))
    rw [hreaching] at hdone honly
    have henters : ∀ answer answer',
        c.entersRelation found.visited left target
          ((c.reaching e bag ignoreBroad name).without [rest])
          (c.carriesBroad e ignoreBroad name) = .ok answer →
        c.entersRelation found.visited left target (c.reaching e bag ignoreBroad name)
          (c.carriesBroad e ignoreBroad name) = .ok answer' → answer = answer' :=
      fun _ _ => entersRelation_without hrest honly honly'
    rcases hdone with ⟨hskip, rfl⟩ | ⟨henter, below, hbelow, rfl⟩
    · rcases hdone' with ⟨-, rfl⟩ | ⟨henter', -⟩
      · rfl
      · exact absurd (henters _ _ hskip henter') (by decide)
    · rcases hdone' with ⟨hskip', -⟩ | ⟨-, below', hbelow', rfl⟩
      · exact absurd (henters _ _ henter hskip') (by decide)
      · obtain rfl := hwalk target _ rest below below' hrest hbelow hbelow'
        simp only [joined, relationConnective, hreaching,
          Bag.filled_without (Ne.symm hrest.stray.ne_broad)]

/-- **Two walks, one with and one without a removable parameter, have the same
result.** -/
theorem walk_without {walked walked' : Walked} (h : c.Removable e bag ignoreBroad k)
    (hless : (c.walk left e (bag.without [k]) ignoreBroad visited).value = .ok walked)
    (hmore : (c.walk left e bag ignoreBroad visited).value = .ok walked') : walked = walked' := by
  induction left generalizing e bag ignoreBroad k visited walked walked' with
  | zero => cases hless
  | succ left ih =>
    rw [walk_succ, ownPredicate_without h.stray] at hless
    rw [walk_succ] at hmore
    obtain ⟨own, hown, hless⟩ := exists_of_bind_ok hless
    obtain ⟨own', hown', hmore⟩ := exists_of_bind_ok hmore
    obtain rfl : own = own' := Except.ok.inj (hown.symm.trans hown')
    refine foldlM_pair (R := Eq) ?_ rfl hless hmore
    rintro name - found _ next next' rfl hhop hhop'
    exact hop_without h (fun _ _ _ _ _ hrest hless hmore => ih hrest hless hmore) hhop hhop'

end SearchContext

/-! ### Searches -/

namespace Compiler

/-- **A search without a stray parameter is the same search.** The key of the
parameter is none of those that ask for an order, a range of time or relations of a
broad search; it addresses nothing, and it crosses no broad search that is not
overlooked. When both searches can be made, with the parameter and without it, they
are equal. -/
theorem compile_without_stray {c : Compiler} {catalog : Catalog} {entity k : String} {e : Entity}
    {source source' : Source} {options : SearchOptions} {clock : Clock} {bag : Bag}
    {result result' : CompiledSearch} (hentity : c.registry.get entity = .ok e)
    (hbag : source.searchInput c.settings.broadKey = .ok (bag.without [k]))
    (hbag' : source'.searchInput c.settings.broadKey = .ok bag)
    (hsort : k ∉ SortKey.parameterNames) (htime : k ∉ TimeRange.parameterNames)
    (hrelations : k ≠ broadRelationsKey)
    (hstray : ∀ last rest, c.registry.Reads e k last rest → rest ≠ c.settings.broadKey ∧
      ∀ table, catalog.table last.table = .ok table →
        rest ∉ Catalog.searchable table last.spec.excludedKeys c.columnAlias)
    (hcrosses : options.ignoreBroad = false → ∀ requested, requestedRelations bag = .ok requested →
      ¬(c.context options requested catalog).Crosses e (bag.without [k]) k)
    (h : c.compile catalog entity source options clock = .ok result)
    (h' : c.compile catalog entity source' options clock = .ok result') : result = result' := by
  obtain ⟨request, walked, table, range, hrequest, hwalked, htable, hrange, rfl⟩ :=
    parts_of_compile h
  obtain ⟨request', walked', table', range', hrequest', hwalked', htable', hrange', rfl⟩ :=
    parts_of_compile h'
  obtain ⟨target, inner, requested⟩ := request
  obtain ⟨target', inner', requested'⟩ := request'
  obtain ⟨hget, hread, hrequested⟩ := parts_of_prepare hrequest
  obtain ⟨hget', hread', hrequested'⟩ := parts_of_prepare hrequest'
  -- Both requests are for one entity, one bag lacks the parameter, and the relations are the same.
  obtain rfl : target = e := Except.ok.inj (hget.symm.trans hentity)
  obtain rfl : target' = target := Except.ok.inj (hget'.symm.trans hentity)
  obtain rfl : inner = bag.without [k] := Except.ok.inj (hread.symm.trans hbag)
  obtain rfl : inner' = bag := Except.ok.inj (hread'.symm.trans hbag')
  rw [requestedRelations_without hrelations] at hrequested
  obtain rfl : requested = requested' := Except.ok.inj (hrequested.symm.trans hrequested')
  obtain rfl : table = table' := Except.ok.inj (htable.symm.trans htable')
  have hk : k ≠ c.settings.broadKey := (hstray target' k (.here target' k)).1
  have hscoped : c.scopedTo [] "" false (inner'.without [k]) =
      (c.scopedTo [] "" false inner').without [k] := Scope.apply_without_of_unnamed _ _ hk rfl
  have hremovable : (c.context options requested catalog).Removable target' inner'
      options.ignoreBroad k := ⟨hstray, fun hignore => hcrosses hignore requested hrequested⟩
  obtain rfl := SearchContext.walk_without hremovable hwalked hwalked'
  rw [requestRange, hscoped, TimeRange.resolve_without htime] at hrange
  obtain rfl : range = range' := Except.ok.inj (hrange.symm.trans hrange')
  rw [assembled, assembled, hscoped, SortKey.resolve_without hsort]

end Compiler

/-! ### Keys that can be read

Where relations have scope names, a scope name that can be read off the front of a key
is one that the key begins with. -/

theorem Registry.Reads.of_stripped {r : Registry} {e last : Entity} {key rest : String}
    (hscopes : r.ScopesNamed) (he : e ∈ r.entities) (h : r.Reads e key last rest) :
    (last = e ∧ rest = key) ∨ ∃ name relation target inner,
      r.relation e name = .ok (relation, target) ∧
        Scope.stripped? (scopeName name) key = some inner ∧ r.Reads target inner last rest := by
  cases h with
  | here => exact Or.inl ⟨rfl, rfl⟩
  | through hrelation hreads =>
    refine Or.inr ⟨_, _, _, _, hrelation, Scope.stripped?_eq_some_iff.mpr ?_, hreads⟩
    exact hscopes.written_eq he (Registry.of_relation hrelation).1 _

theorem SearchContext.Crosses.of_stripped {c : SearchContext} {e : Entity} {bag : Bag}
    {key : String} (hscopes : c.registry.ScopesNamed) (he : e ∈ c.registry.entities)
    (h : c.Crosses e bag key) :
    ∃ name relation target inner, c.registry.relation e name = .ok (relation, target) ∧
      Scope.stripped? (scopeName name) key = some inner ∧
        (c.onlyBroad (c.reaching e bag false name) = true ∨
          c.Crosses target (c.reaching e bag false name) inner) := by
  cases h with
  | @here _ _ _ _ rest _ hrelation _ _ honly =>
    refine ⟨_, _, _, rest, hrelation, Scope.stripped?_eq_some_iff.mpr ?_, Or.inl honly⟩
    exact hscopes.written_eq he (Registry.of_relation hrelation).1 rest
  | further hrelation _ hcrosses =>
    refine ⟨_, _, _, _, hrelation, Scope.stripped?_eq_some_iff.mpr ?_, Or.inr hcrosses⟩
    exact hscopes.written_eq he (Registry.of_relation hrelation).1 _

namespace Pond

/-- The relation of a fish and what is left of a key behind its name. -/
theorem species_of_stripped {name inner : String} {relation : Relation} {target : Entity}
    (hrelation : registry.relation fish name = .ok (relation, target))
    (hstripped : Scope.stripped? (scopeName name) "species_colour" = some inner) :
    name = "species" ∧ target = species ∧ inner = "colour" := by
  obtain rfl : name = "species" := List.mem_singleton.mp (Registry.of_relation hrelation).1
  have hcolour : Scope.stripped? (scopeName "species") "species_colour" = some "colour" := by
    decide +kernel
  exact ⟨rfl, (Prod.mk.inj (Except.ok.inj hrelation)).2.symm,
    (Option.some.inj (hcolour.symm.trans hstripped)).symm⟩

/-- No relation of a species has a name that the rest begins with. -/
theorem stripped_colour {name inner : String} {relation : Relation} {target : Entity}
    (hrelation : registry.relation species name = .ok (relation, target)) :
    Scope.stripped? (scopeName name) "colour" ≠ some inner := by
  obtain rfl : name = "fish" := List.mem_singleton.mp (Registry.of_relation hrelation).1
  have hcolour : Scope.stripped? (scopeName "fish") "colour" = none := by decide +kernel
  rw [hcolour]
  exact nofun

/-- **The colour of a species addresses nothing**: no table has such a column. -/
theorem stray_species_colour {last : Entity} {rest : String}
    (h : registry.Reads fish "species_colour" last rest) :
    rest ≠ "q" ∧ ∀ table, catalog.table last.table = .ok table →
      rest ∉ Catalog.searchable table last.spec.excludedKeys "q" := by
  have hfish : fish ∈ registry.entities := by simp [registry]
  have hspecies : species ∈ registry.entities := by simp [registry]
  have hcolumns : ∀ rest ∈ ["species_colour", "colour"], rest ≠ "q" ∧
      ∀ t ∈ catalog.tables, rest ∉ t.columnNames := by decide
  have hrest : rest ∈ ["species_colour", "colour"] := by
    rcases h.of_stripped scopesNamed hfish with ⟨-, rfl⟩ |
      ⟨name, relation, target, inner, hrelation, hstripped, hreads⟩
    · exact List.mem_cons_self
    · obtain ⟨-, rfl, rfl⟩ := species_of_stripped hrelation hstripped
      rcases hreads.of_stripped scopesNamed hspecies with ⟨-, rfl⟩ |
        ⟨name, relation, target, inner, hrelation, hstripped, -⟩
      · simp
      · exact absurd hstripped (stripped_colour hrelation)
  refine ⟨(hcolumns rest hrest).1, fun table htable hmem => ?_⟩
  have htables : table ∈ catalog.tables := by
    rw [Catalog.table] at htable
    split at htable
    next hfind =>
      cases htable
      exact List.mem_of_find?_eq_some hfind
    next => cases htable
  exact (hcolumns rest hrest).2 table htables (List.mem_filter.mp hmem).1

/-- A broad search of fishes that asks for a label of their species, with one
parameter too many. -/
def labelled : Bag :=
  ⟨[("q", .str "koi"), ("species_colour", .str "red"), ("species_label", .str "carp")], by decide⟩

/-- Beside the label of a species its colour crosses no broad search: the share of the
species is never the broad-search parameter alone. -/
theorem not_crosses_labelled :
    ¬(compiler.context following [] catalog).Crosses fish (labelled.without ["species_colour"])
      "species_colour" := by
  intro hcrosses
  have hfish : fish ∈ registry.entities := by simp [registry]
  have hspecies : species ∈ registry.entities := by simp [registry]
  obtain ⟨name, relation, target, inner, hrelation, hstripped, hcrosses⟩ :=
    hcrosses.of_stripped scopesNamed hfish
  obtain ⟨rfl, rfl, rfl⟩ := species_of_stripped hrelation hstripped
  rcases hcrosses with honly | hcrosses
  · exact absurd honly (by decide +kernel)
  · obtain ⟨name, relation, target, inner, hrelation, hstripped, -⟩ :=
      hcrosses.of_stripped scopesNamed hspecies
    exact stripped_colour hrelation hstripped

end Pond

namespace Compiler

/-- The colour of a species, which it does not have, beside its label. -/
theorem compile_without_stray_pond :
    ∃ result result',
      Pond.compiler.compile Pond.catalog "Fish"
          (.value (.map [(.str "q", .str "koi"), (.str "species_label", .str "carp")]))
          Pond.following Pond.clock = .ok result ∧
        Pond.compiler.compile Pond.catalog "Fish"
          (.value (.map [(.str "q", .str "koi"), (.str "species_colour", .str "red"),
            (.str "species_label", .str "carp")])) Pond.following Pond.clock = .ok result' ∧
        result = result' := by
  obtain ⟨result, h⟩ := exists_of_toBool (x := Pond.compiler.compile Pond.catalog "Fish"
    (.value (.map [(.str "q", .str "koi"), (.str "species_label", .str "carp")])) Pond.following
    Pond.clock) (by decide +kernel)
  obtain ⟨result', h'⟩ := exists_of_toBool (x := Pond.compiler.compile Pond.catalog "Fish"
    (.value (.map [(.str "q", .str "koi"), (.str "species_colour", .str "red"),
      (.str "species_label", .str "carp")])) Pond.following Pond.clock) (by decide +kernel)
  have hbag : Source.searchInput "q" (.value (.map [(.str "q", .str "koi"),
      (.str "species_label", .str "carp")])) = .ok (Pond.labelled.without ["species_colour"]) := rfl
  have hbag' : Source.searchInput "q" (.value (.map [(.str "q", .str "koi"),
      (.str "species_colour", .str "red"), (.str "species_label", .str "carp")])) =
        .ok Pond.labelled := rfl
  refine ⟨result, result', h, h', compile_without_stray (c := Pond.compiler) (e := Pond.fish) rfl
    hbag hbag' (by decide) (by decide) (by decide) (fun _ _ => Pond.stray_species_colour)
    (fun _ requested hrequested => ?_) h h'⟩
  obtain rfl : [] = requested := Except.ok.inj hrequested
  exact Pond.not_crosses_labelled

/-- **A stray parameter can change a search**: it keeps a broad search from an entity
whose share is nothing but the broad-search parameter without it. -/
theorem not_compile_without_stray :
    ∃ result result',
      Pond.compiler.compile Pond.catalog "Fish" (.value (.map [(.str "q", .str "koi")]))
          Pond.following Pond.clock = .ok result ∧
        Pond.compiler.compile Pond.catalog "Fish"
          (.value (.map [(.str "q", .str "koi"), (.str "species_colour", .str "red")]))
          Pond.following Pond.clock = .ok result' ∧
        "species_colour" ∉ SortKey.parameterNames ∧ "species_colour" ∉ TimeRange.parameterNames ∧
        "species_colour" ≠ broadRelationsKey ∧
        (∀ last rest, Pond.registry.Reads Pond.fish "species_colour" last rest → rest ≠ "q" ∧
          ∀ table, Pond.catalog.table last.table = .ok table →
            rest ∉ Catalog.searchable table last.spec.excludedKeys "q") ∧
        result ≠ result' := by
  obtain ⟨result, h, hjoins⟩ := exists_of_map_ok (x := Pond.compiler.compile Pond.catalog "Fish"
    (.value (.map [(.str "q", .str "koi")])) Pond.following Pond.clock)
    (f := fun s => s.predicate.joins) (b := ["Species"]) (by decide +kernel)
  obtain ⟨result', h', hjoins'⟩ := exists_of_map_ok (x := Pond.compiler.compile Pond.catalog "Fish"
    (.value (.map [(.str "q", .str "koi"), (.str "species_colour", .str "red")])) Pond.following
    Pond.clock) (f := fun s => s.predicate.joins) (b := []) (by decide +kernel)
  refine ⟨result, result', h, h', by decide, by decide, by decide,
    fun _ _ => Pond.stray_species_colour, ?_⟩
  rintro rfl
  exact absurd (hjoins.symm.trans hjoins') (by decide)

end Compiler

end RelationalSearch
