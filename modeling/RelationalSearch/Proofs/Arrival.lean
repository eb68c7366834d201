import RelationalSearch.Proofs.Hop
import RelationalSearch.Proofs.Reordering

/-!
# The order in which parameters arrive

A request is a mapping, and a mapping has no order; a bag has one. The order of the
parameters is the order in which columns are compared, and the order in which a scope
stores what it keeps. Only the latter could do harm: two keys that become one in a
scope overwrite each other, and then the last one counts. This happens to no keys but
the broad-search parameter, which goes through a scope as it is, and the same key with
the name of the scope in front; where no key is of this form
(`RelationalSearch.Bag.SparesBroad`), a scope of the same parameters in another order
has the same parameters in another order (`RelationalSearch.Scope.apply_of_perm`).

Look-aheads do not see the order at all
(`RelationalSearch.SearchContext.findsAny_of_perm`), so two walks go to the same
entities in the same order, and what they find differs in the order of the members of
groups only (`RelationalSearch.SearchContext.walk_of_perm`).
-/

namespace RelationalSearch

/-! ### Bags and scopes -/

namespace Bag

variable {b b' : Bag}

theorem keys_of_perm (h : b.entries.Perm b'.entries) : b.keys.Perm b'.keys := h.map Prod.fst

theorem only_singleton_of_perm (h : b.entries.Perm b'.entries) (key : String) :
    b.only [key] = b'.only [key] := by
  rw [Bool.eq_iff_iff, only_singleton, only_singleton]
  simp only [(keys_of_perm h).mem_iff]

/-- No key is that of the broad-search parameter with a name in front. -/
def SparesBroad (b : Bag) (broadKey : String) : Prop :=
  ∀ key ∈ b.keys, ∀ name, key ≠ name ++ "_" ++ broadKey

theorem sparesBroad_of_suffix {broadKey : String}
    (h : ∀ key ∈ b.keys, ¬('_' :: broadKey.toList) <:+ key.toList) : b.SparesBroad broadKey := by
  rintro key hkey name rfl
  refine h _ hkey ⟨name.toList, ?_⟩
  rw [String.toList_append, String.toList_append, List.append_assoc]
  rfl

theorem SparesBroad.of_perm {broadKey : String} (hb : b.SparesBroad broadKey)
    (h : b.entries.Perm b'.entries) : b'.SparesBroad broadKey :=
  fun key hkey => hb key ((keys_of_perm h).mem_iff.mpr hkey)

end Bag

namespace Scope

variable {scope : Scope} {bag bag' : Bag}

/-- What a scope keeps of a bag whose keys stay apart in it: nothing is overwritten. -/
theorem entries_apply (hbag : bag.SparesBroad scope.broadKey)
    (hif : ¬((Text.trim scope.name).isEmpty && !scope.ignoreBroad) = true) :
    (scope.apply bag).entries =
      ((bag.without scope.excluded).nonBlank).entries.filterMap fun e =>
        (keyWithin? (Text.trim scope.name) scope.ignoreBroad scope.broadKey e.1).map
          fun key => (key, e.2) := by
  refine entries_apply_of_apart (fun hmem => ?_) hif
  rw [written] at hmem ⊢
  split at hmem
  next hname => exact if_pos hname
  next => exact absurd rfl (hbag _ hmem _)

/-- **A scope of parameters in another order** has what it keeps in another order. -/
theorem apply_of_perm (hbag : bag.SparesBroad scope.broadKey)
    (h : bag.entries.Perm bag'.entries) :
    (scope.apply bag).entries.Perm (scope.apply bag').entries := by
  have hkept : ((bag.without scope.excluded).nonBlank).entries.Perm
      ((bag'.without scope.excluded).nonBlank).entries := (h.filter _).filter _
  by_cases hif : ((Text.trim scope.name).isEmpty && !scope.ignoreBroad) = true
  · rw [apply, if_pos hif, apply, if_pos hif]
    exact hkept
  · rw [entries_apply hbag hif, entries_apply (hbag.of_perm h) hif]
    exact hkept.filterMap _

/-- In a scope no key is that of the broad-search parameter with a name in front,
unless it is so in the bag. -/
theorem sparesBroad_apply (halias : '_' ∉ scope.broadKey.toList)
    (hbag : bag.SparesBroad scope.broadKey) :
    (scope.apply bag).SparesBroad scope.broadKey := by
  rintro key hkey name rfl
  rcases mem_keys_apply hkey with ⟨hmem, -⟩ | ⟨-, hbroad, -⟩
  · rw [written] at hmem
    split at hmem
    · exact hbag _ hmem name rfl
    · refine hbag _ hmem (Text.trim scope.name ++ "_" ++ name) ?_
      simp only [String.append_assoc]
  · exact halias (hbroad ▸ underscore_mem name scope.broadKey)

end Scope

/-! ### Walks -/

namespace SearchContext

variable {c : SearchContext} {e target : Entity} {bag bag' : Bag} {ignoreBroad : Bool}
  {left : Nat} {name : String} {visited path : List String}

/-- The same parameters in another order, which no scope can tell apart. -/
structure Rearranged (c : SearchContext) (bag bag' : Bag) : Prop where
  perm : bag.entries.Perm bag'.entries
  spares : bag.SparesBroad c.broadKey

theorem Rearranged.reaching (h : c.Rearranged bag bag') (halias : '_' ∉ c.broadKey.toList)
    (e : Entity) (ignoreBroad : Bool) (name : String) :
    c.Rearranged (c.reaching e bag ignoreBroad name) (c.reaching e bag' ignoreBroad name) := by
  rw [reaching_eq_apply, reaching_eq_apply]
  exact ⟨Scope.apply_of_perm h.spares h.perm, Scope.sparesBroad_apply halias h.spares⟩

theorem Rearranged.onlyBroad_eq (h : c.Rearranged bag bag') : c.onlyBroad bag = c.onlyBroad bag' :=
  Bag.only_singleton_of_perm h.perm c.broadKey

/-- **A look-ahead does not see the order of parameters.** -/
theorem findsAny_of_perm (halias : '_' ∉ c.broadKey.toList) (h : c.Rearranged bag bag') :
    c.findsAny visited left e bag ignoreBroad path =
      c.findsAny visited left e bag' ignoreBroad path := by
  induction left generalizing e bag bag' ignoreBroad path with
  | zero => rfl
  | succ left ih =>
    have hkeys : ∀ columns : List String,
        bag.keys.any columns.contains = bag'.keys.any columns.contains := fun columns =>
      (Bag.keys_of_perm h.perm).any_eq
    rw [findsAny_succ, findsAny_succ, h.onlyBroad_eq]
    refine congrArg (ite _ _) (congrArg _ (funext fun columns => ?_))
    rw [hkeys columns]
    refine congrArg (ite _ _) (congrArg (ite _ _) (anyM_congr fun name _ => ?_))
    rcases hrelation : c.registry.relation e name with err | ⟨relation, target⟩
    · simp only [findsBelow, hrelation, bind, Except.bind]
    · have hinner := h.reaching halias e ignoreBroad name
      rw [findsBelow_of_relation hrelation, findsBelow_of_relation hrelation,
        Bag.isEmpty_of_perm hinner.perm, ih hinner]

theorem entersRelation_of_perm {broad : Bool} (halias : '_' ∉ c.broadKey.toList)
    (h : c.Rearranged bag bag') :
    c.entersRelation visited left target bag broad =
      c.entersRelation visited left target bag' broad := by
  rw [entersRelation, entersRelation, Bag.isEmpty_of_perm h.perm, h.onlyBroad_eq,
    findsAny_of_perm halias h]

/-- What has been found, up to the order of members, with the same visits. -/
structure Alike (found found' : Walked) : Prop where
  predicate : found.predicate.Reordered found'.predicate
  visited : found.visited = found'.visited

theorem ownPredicate_of_perm (h : c.Rearranged bag bag') :
    EndAlike Group.Reordered (c.ownPredicate e bag ignoreBroad)
      (c.ownPredicate e bag' ignoreBroad) := by
  have hown : (c.ownParameters e bag ignoreBroad).entries.Perm
      (c.ownParameters e bag' ignoreBroad).entries := Scope.apply_of_perm h.spares h.perm
  rw [ownPredicate, ownPredicate, Bag.filled_congr (Bag.get?_of_perm hown c.broadKey)]
  exact (EndAlike.refl (c.table e)).map fun table table' htable =>
    htable ▸ reordered_buildPredicate hown

/-- **One step of two walks**: it enters the relation in both or in none. -/
theorem hop_of_perm (halias : '_' ∉ c.broadKey.toList) (h : c.Rearranged bag bag')
    {found found' : Walked} (hfound : Alike found found')
    (hwalk : ∀ target, EndAlike Alike
      (c.walk left target (c.reaching e bag ignoreBroad name) (!(c.carriesBroad e ignoreBroad name))
        found.visited).value
      (c.walk left target (c.reaching e bag' ignoreBroad name)
        (!(c.carriesBroad e ignoreBroad name)) found.visited).value) :
    EndAlike Alike (c.hop left e bag ignoreBroad found name)
      (c.hop left e bag' ignoreBroad found' name) := by
  have hinner := h.reaching halias e ignoreBroad name
  rw [hop, hop, ← hfound.visited]
  refine (EndAlike.refl (c.registry.relation e name)).bind ?_
  rintro ⟨relation, target⟩ _ rfl
  simp only [entersRelation_of_perm halias hinner]
  refine (EndAlike.refl _).bind ?_
  rintro enters _ rfl
  cases enters with
  | false => exact .results hfound
  | true =>
    refine (hwalk target).bind fun below below' hbelow => .results ⟨?_, hbelow.visited⟩
    have hconnective : c.relationConnective e name (c.carriesBroad e ignoreBroad name)
        (c.reaching e bag ignoreBroad name) = c.relationConnective e name
          (c.carriesBroad e ignoreBroad name) (c.reaching e bag' ignoreBroad name) := by
      rw [relationConnective, relationConnective,
        Bag.filled_congr (Bag.get?_of_perm hinner.perm c.broadKey)]
    rw [joined, joined, hconnective]
    exact Group.reordered_of _ (.cons hfound.predicate.toPredicate
      (.cons (hbelow.predicate.related relation target.table) .nil))

/-- **Two walks whose parameters come in different orders** both fail, or find the same
up to the order of members and visit the same entities in the same order. -/
theorem walk_of_perm (halias : '_' ∉ c.broadKey.toList) (h : c.Rearranged bag bag') :
    EndAlike Alike (c.walk left e bag ignoreBroad visited).value
      (c.walk left e bag' ignoreBroad visited).value := by
  induction left generalizing e bag bag' ignoreBroad visited with
  | zero => exact .failures
  | succ left ih =>
    rw [walk_succ, walk_succ]
    refine (ownPredicate_of_perm h).bind fun own own' hown => ?_
    refine EndAlike.foldlM ⟨hown, rfl⟩ fun name _ found found' hfound => ?_
    exact hop_of_perm halias h hfound fun target => ih (h.reaching halias e ignoreBroad name)

end SearchContext

/-! ### Mappings -/

namespace Bag

variable {b bag : Bag} {entries entries' : List (Value × Value)}

/-- An entry of a raw table and what it becomes in a bag. -/
def Enters (e : Value × Value) (e' : String × Value) : Prop :=
  e.1 = .str e'.1 ∧ e.2.cleaned e'.1 = .ok e'.2

/-- Stores one entry of a raw table. -/
def putRaw (b : Bag) (e : Value × Value) : Except SearchError Bag :=
  match e.1 with
  | .str key => (e.2.cleaned key).map (b.put key)
  | k => .error (.keyNotText k.literal)

theorem ofTable_eq_foldlM (entries : List (Value × Value)) :
    ofTable entries = entries.foldlM putRaw empty := rfl

/-- What a table whose keys are different becomes when it is stored in a bag: every
entry enters it, behind those that are there. -/
theorem foldlM_putRaw_eq_ok_iff (hnodup : (entries.map Prod.fst).Nodup)
    (hnew : ∀ key ∈ b.keys, .str key ∉ entries.map Prod.fst) :
    entries.foldlM putRaw b = .ok bag ↔
      ∃ added, List.Forall₂ Enters entries added ∧ bag.entries = b.entries ++ added := by
  induction entries generalizing b with
  | nil =>
    constructor
    · rintro ⟨⟩
      exact ⟨[], .nil, (List.append_nil _).symm⟩
    · rintro ⟨added, hadded, hbag⟩
      cases hadded
      rw [List.append_nil] at hbag
      rw [Bag.ext hbag]
      rfl
  | cons e rest ih =>
    obtain ⟨k, v⟩ := e
    rw [List.map_cons, List.nodup_cons] at hnodup
    have hput : ∀ key v', k = .str key → (b.put key v').entries = b.entries ++ [(key, v')] := by
      rintro key v' rfl
      exact putEntry_of_not_mem fun hkey => hnew key hkey List.mem_cons_self
    have hlater : ∀ key v', k = .str key →
        ∀ key' ∈ (b.put key v').keys, Value.str key' ∉ rest.map Prod.fst := by
      rintro key v' rfl key' hkey'
      rcases mem_keys_put.mp hkey' with rfl | hkey'
      · exact hnodup.1
      · exact fun hmem => hnew key' hkey' (List.mem_cons_of_mem _ hmem)
    rw [List.foldlM_cons]
    constructor
    · intro h
      obtain ⟨next, hnext, h⟩ := exists_of_bind_ok h
      rw [putRaw] at hnext
      split at hnext
      next key hk =>
        obtain ⟨v', hv, rfl⟩ := exists_of_map_ok hnext
        obtain ⟨added, hadded, hbag⟩ := (ih hnodup.2 (hlater key v' hk)).mp h
        refine ⟨(key, v') :: added, .cons ⟨hk, hv⟩ hadded, ?_⟩
        rw [hbag, hput key v' hk, List.append_assoc]
        rfl
      next => cases hnext
    · rintro ⟨added, hadded, hbag⟩
      cases hadded with
      | @cons _ e' _ added he hadded =>
        obtain ⟨key, v'⟩ := e'
        obtain ⟨rfl, hv⟩ : k = .str key ∧ v.cleaned key = .ok v' := he
        have hstep : putRaw b (.str key, v) = .ok (b.put key v') := by
          simp only [putRaw, hv, Except.map]
        rw [hstep]
        refine (ih hnodup.2 (hlater key v' rfl)).mpr ⟨added, hadded, ?_⟩
        rw [hbag, hput key v' rfl, List.append_assoc]
        rfl

/-- **When a table becomes a bag**: when each of its entries can enter it. -/
theorem ofTable_eq_ok_iff (hnodup : (entries.map Prod.fst).Nodup) :
    ofTable entries = .ok bag ↔ List.Forall₂ Enters entries bag.entries := by
  rw [ofTable_eq_foldlM, foldlM_putRaw_eq_ok_iff hnodup fun _ h => absurd h not_mem_keys_empty]
  constructor
  · rintro ⟨added, hadded, hbag⟩
    rwa [hbag]
  · exact fun h => ⟨bag.entries, h, rfl⟩

/-- A table in another order becomes the bag in another order. -/
theorem exists_ofTable_of_perm (hnodup : (entries.map Prod.fst).Nodup)
    (h : entries'.Perm entries) (hbag : ofTable entries = .ok bag) :
    ∃ bag', ofTable entries' = .ok bag' ∧ bag'.entries.Perm bag.entries := by
  obtain ⟨added, hadded, hperm⟩ :=
    List.perm_comp_forall₂ h ((ofTable_eq_ok_iff hnodup).mp hbag)
  have hnodup' : (added.map Prod.fst).Nodup := (hperm.map Prod.fst).nodup_iff.mpr bag.nodup
  refine ⟨⟨added, hnodup'⟩, (ofTable_eq_ok_iff ?_).mpr hadded, hperm⟩
  exact (h.map Prod.fst).nodup_iff.mpr hnodup

theorem ofTable_of_perm (hnodup : (entries.map Prod.fst).Nodup) (h : entries.Perm entries') :
    EndAlike (fun b b' : Bag => b.entries.Perm b'.entries) (ofTable entries)
      (ofTable entries') := by
  have hnodup' : (entries'.map Prod.fst).Nodup := (h.map Prod.fst).nodup_iff.mp hnodup
  cases hbag : ofTable entries with
  | ok bag =>
    obtain ⟨bag', hbag', hperm⟩ := exists_ofTable_of_perm hnodup h.symm hbag
    rw [hbag']
    exact .results hperm.symm
  | error err =>
    cases hbag' : ofTable entries' with
    | ok bag' =>
      obtain ⟨bag, hok, -⟩ := exists_ofTable_of_perm hnodup' h hbag'
      cases hbag.symm.trans hok
    | error err' => exact .failures

/-- Entries with different keys make a bag as they are. -/
theorem entries_ofEntries {entries : List (String × Value)} (h : (entries.map Prod.fst).Nodup) :
    (ofEntries entries).entries = entries := by
  show (empty.storeAll some entries).entries = entries
  rw [entries_storeAll (fun _ _ _ _ _ h₁ h₂ => Option.some.inj (h₁.trans h₂.symm)) h
    fun _ _ _ _ => not_mem_keys_empty]
  show entries.filterMap some = entries
  exact List.filterMap_some

end Bag

/-- **The same mapping in another order**: a table or a bag, given as such, or a foreign
bag that is asked for its keys. A mapping has no key twice. -/
inductive Source.Reorders : Source → Source → Prop
  /-- A table. -/
  | map {entries entries' : List (Value × Value)} (hnodup : (entries.map Prod.fst).Nodup)
      (h : entries.Perm entries') : Reorders (.value (.map entries)) (.value (.map entries'))
  /-- A bag. -/
  | bag {entries entries' : List (String × Value)} (hnodup : (entries.map Prod.fst).Nodup)
      (h : entries.Perm entries') : Reorders (.value (.bag entries)) (.value (.bag entries'))
  /-- A foreign bag. -/
  | foreign {entries entries' : List (Value × Value)} (hnodup : (entries.map Prod.fst).Nodup)
      (h : entries.Perm entries') : Reorders (.foreign entries) (.foreign entries')

/-- **A mapping in another order is read alike**: as the same parameters in another
order, or not at all. -/
theorem Source.Reorders.searchInput {source source' : Source} (h : source.Reorders source')
    (broadKey : String) :
    EndAlike (fun b b' : Bag => b.entries.Perm b'.entries) (source.searchInput broadKey)
      (source'.searchInput broadKey) := by
  cases h with
  | map hnodup h => exact (Bag.ofTable_of_perm hnodup h).mapError
  | bag hnodup h =>
    refine .results ?_
    rwa [Bag.entries_ofEntries hnodup,
      Bag.entries_ofEntries ((h.map Prod.fst).nodup_iff.mp hnodup)]
  | foreign hnodup h => exact (Bag.ofTable_of_perm hnodup h).mapError

/-! ### Searches -/

/-- The same search up to the order of members in its predicate. -/
structure CompiledSearch.Reordered (s s' : CompiledSearch) : Prop where
  entity : s.entity = s'.entity
  table : s.table = s'.table
  predicate : s.predicate.Reordered s'.predicate
  sort : s.sort = s'.sort
  timeRange : s.timeRange = s'.timeRange
  visited : s.visited = s'.visited

namespace Compiler

variable {c : Compiler} {catalog : Catalog} {entity : String} {source source' : Source}
  {options : SearchOptions} {clock : Clock}

/-- The same request with its parameters in another order. -/
structure Request.Rearranged (broadKey : String) (request request' : Request) : Prop where
  target : request.target = request'.target
  perm : request.bag.entries.Perm request'.bag.entries
  spares : request.bag.SparesBroad broadKey
  requested : request.requested = request'.requested

theorem prepare_of_reorders (hsource : source.Reorders source')
    (hspares : ∀ bag, source.searchInput c.settings.broadKey = .ok bag →
      bag.SparesBroad c.settings.broadKey) :
    EndAlike (Request.Rearranged c.settings.broadKey) (c.prepare entity source)
      (c.prepare entity source') := by
  rw [prepare, prepare]
  refine (EndAlike.refl ((c.registry.get entity).mapError Failure.refused)).bind ?_
  rintro e _ rfl
  refine (hsource.searchInput c.settings.broadKey).and_ok.bind ?_
  rintro bag bag' ⟨hperm, hbag⟩
  rw [requestedRelations_congr (Bag.get?_of_perm hperm broadRelationsKey)]
  refine (EndAlike.refl ((requestedRelations bag').mapError Failure.fault)).bind ?_
  rintro requested _ rfl
  exact .results ⟨rfl, hperm, hspares bag hbag, rfl⟩

/-- **The order of the parameters does not matter**: two requests with the same mapping
in different orders both fail, or make the same search up to the order of the members
of groups. No key may be that of the broad-search parameter with a name in front, and
this one may not have an underscore. -/
theorem compile_of_reorders (halias : '_' ∉ c.settings.broadKey.toList)
    (hsource : source.Reorders source')
    (hspares : ∀ bag, source.searchInput c.settings.broadKey = .ok bag →
      bag.SparesBroad c.settings.broadKey) :
    EndAlike CompiledSearch.Reordered (c.compile catalog entity source options clock)
      (c.compile catalog entity source' options clock) := by
  rw [compile_eq, compile_eq]
  refine (prepare_of_reorders hsource hspares).bind ?_
  rintro ⟨e, bag, requested⟩ ⟨_, bag', _⟩ ⟨rfl, hperm, hbag, rfl⟩
  have hreserved : ∀ key ∈ reservedKeys, bag.nonBlank.get? key = bag'.nonBlank.get? key :=
    fun key _ => Bag.get?_of_perm (hperm.filter _) key
  have hwalk : EndAlike SearchContext.Alike (c.requestWalk catalog options ⟨e, bag, requested⟩)
      (c.requestWalk catalog options ⟨e, bag', requested⟩) :=
    SearchContext.walk_of_perm halias ⟨hperm, hbag⟩
  refine hwalk.mapError.bind fun walked walked' hwalked => ?_
  refine (EndAlike.refl ((catalog.table e.table).mapError Failure.refused)).bind ?_
  rintro table _ rfl
  rw [requestRange_congr hreserved]
  refine (EndAlike.refl (c.requestRange clock ⟨e, bag', requested⟩ table)).bind ?_
  rintro range _ rfl
  refine .results ⟨rfl, rfl, hwalked.predicate, ?_, rfl, congrArg sortedNames hwalked.visited⟩
  simp only [assembled, sort_congr hreserved]

end Compiler

namespace Pond

/-- A request for a pond by the name of a fish, its own name and its depth. -/
def stocked : Source :=
  .value (.map [(.str "fish_name", .str "koi"), (.str "name", .str "mere"), (.str "depth", .int 3)])

/-- The same request the other way round. -/
def stockedReversed : Source :=
  .value (.map [(.str "depth", .int 3), (.str "name", .str "mere"), (.str "fish_name", .str "koi")])

end Pond

namespace Compiler

/-- A pond asked for in two orders. -/
theorem compile_of_reorders_pond :
    ∃ result result',
      Pond.compiler.compile Pond.catalog "Pond" Pond.stocked Pond.following Pond.clock =
          .ok result ∧
        Pond.compiler.compile Pond.catalog "Pond" Pond.stockedReversed Pond.following Pond.clock =
          .ok result' ∧
        result.Reordered result' := by
  obtain ⟨result, h⟩ := exists_of_toBool (x := Pond.compiler.compile Pond.catalog "Pond"
    Pond.stocked Pond.following Pond.clock) (by decide +kernel)
  have hsource : Pond.stocked.Reorders Pond.stockedReversed :=
    .map (by simp) (List.reverse_perm _).symm
  have hspares : ∀ bag, Pond.stocked.searchInput "q" = .ok bag → bag.SparesBroad "q" := by
    rintro bag ⟨⟩
    exact Bag.sparesBroad_of_suffix (by decide)
  obtain ⟨result', h', hreordered⟩ := EndAlike.of_ok
    (compile_of_reorders (c := Pond.compiler) (by decide) hsource hspares) h
  exact ⟨result, result', h, h', hreordered⟩

end Compiler

end RelationalSearch
