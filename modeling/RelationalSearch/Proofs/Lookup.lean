import RelationalSearch.Proofs.Compilation

/-!
# What a search looks up

The order and the range of time of a search, and the relations that its request
names for a broad search, are read off single keys of a bag. Two bags that answer
alike for these keys ask for the same order
(`RelationalSearch.SortKey.resolve_congr`), for the same range
(`RelationalSearch.TimeRange.resolve_congr`) and for the same relations
(`RelationalSearch.requestedRelations_congr`), whatever else they hold and in
whatever order.
-/

namespace RelationalSearch

/-! ### Look-up -/

namespace Bag

variable {b b' : Bag} {key : String}

theorem get_congr (h : b.get? key = b'.get? key) : b.get key = b'.get key := by
  rw [get, get, h]

theorem filled_congr (h : b.get? key = b'.get? key) : b.filled key = b'.filled key := by
  rw [filled, filled, h]

/-- What is kept under a key whatever its value is found there as before. -/
theorem get?_filter {p : String → Value → Bool} (h : ∀ v, p key v = true) :
    (b.filter p).get? key = b.get? key := by
  show (b.entries.filter fun e => p e.1 e.2).lookup key = b.entries.lookup key
  induction b.entries with
  | nil => rfl
  | cons e rest ih =>
    obtain ⟨k, v⟩ := e
    by_cases hk : key = k
    · subst hk
      rw [List.filter_cons_of_pos (p := fun e : String × Value => p e.1 e.2) (h v),
        List.lookup_cons_self, List.lookup_cons_self]
    · have hne : (key == k) = false := beq_eq_false_iff_ne.mpr hk
      rw [List.lookup_cons, hne, ← ih, List.filter_cons]
      split
      · rw [List.lookup_cons, hne]
      · rfl

theorem get?_without_of_not_mem {keys : List String} (h : key ∉ keys) :
    (b.without keys).get? key = b.get? key :=
  get?_filter fun _ => by simpa using h

/-- Of several keys it is enough to spare those that the bag has. -/
theorem get?_without_of_imp {keys : List String} (h : key ∈ keys → key ∉ b.keys) :
    (b.without keys).get? key = b.get? key := by
  by_cases hkey : key ∈ keys
  · have hmissing : key ∉ (b.without keys).keys := fun hmem => by
      obtain ⟨v, hv⟩ := mem_keys.mp hmem
      exact h hkey (mem_keys_of_mem (List.mem_of_mem_filter hv))
    rw [get?_of_not_mem (h hkey), get?_of_not_mem hmissing]
  · exact get?_without_of_not_mem hkey

/-- Parameters that come in another order are found under the same keys. -/
theorem get?_of_perm (h : b.entries.Perm b'.entries) (key : String) :
    b.get? key = b'.get? key := by
  by_cases hkey : key ∈ b.keys
  · obtain ⟨v, hv⟩ := mem_keys.mp hkey
    rw [get?_of_mem hv, get?_of_mem (h.mem_iff.mp hv)]
  · have hkey' : key ∉ b'.keys := fun h' => hkey ((h.map Prod.fst).mem_iff.mpr h')
    rw [get?_of_not_mem hkey, get?_of_not_mem hkey']

theorem isEmpty_of_perm (h : b.entries.Perm b'.entries) : b.isEmpty = b'.isEmpty := by
  rw [Bool.eq_iff_iff, isEmpty, isEmpty, List.isEmpty_iff, List.isEmpty_iff]
  exact ⟨fun hnil => (hnil ▸ h).nil_eq.symm, fun hnil => (hnil ▸ h).eq_nil⟩

theorem filter_comm (b : Bag) (p q : String → Value → Bool) :
    (b.filter p).filter q = (b.filter q).filter p :=
  Bag.ext (List.filter_comm _ _ _)

/-- Blank parameters and named ones can be taken out in any order. -/
theorem nonBlank_without (b : Bag) (keys : List String) :
    (b.without keys).nonBlank = b.nonBlank.without keys :=
  filter_comm b _ _

/-- What is taken out of a bag is missing from what a scope looks at. -/
theorem kept_without (b : Bag) (keys excluded : List String) :
    ((b.without keys).without excluded).nonBlank =
      ((b.without excluded).nonBlank).without keys := by
  rw [← nonBlank_without]
  exact congrArg nonBlank (filter_comm b _ _)

end Bag

/-! ### The order, the range of time and the relations of a broad search -/

variable {params params' : Bag} {columns : List String}

theorem SortKey.resolve_congr
    (h : ∀ name ∈ SortKey.parameterNames, params.get? name = params'.get? name)
    (nullsFirst : Bool) :
    SortKey.resolve params columns nullsFirst = SortKey.resolve params' columns nullsFirst := by
  simp only [SortKey.parameterNames, List.forall_mem_cons] at h
  obtain ⟨hsort, hsortBy, hsortByDesc, -⟩ := h
  simp only [SortKey.resolve, SortKey.requested, Bag.filled_congr hsort, Bag.filled_congr hsortBy,
    Bag.filled_congr hsortByDesc, Bag.get_congr hsort, Bag.get_congr hsortBy,
    Bag.get_congr hsortByDesc]

theorem TimeRange.resolve_congr
    (h : ∀ name ∈ TimeRange.parameterNames, params.get? name = params'.get? name)
    (usual zoneName : String) (clock : Clock) :
    TimeRange.resolve params usual zoneName columns clock =
      TimeRange.resolve params' usual zoneName columns clock := by
  simp only [TimeRange.parameterNames, List.forall_mem_cons] at h
  obtain ⟨hcolumn, hdate, hfrom, hto, hstart, hfinish, -⟩ := h
  simp only [TimeRange.resolve, TimeRange.columnOf, TimeRange.ends, List.any_cons, List.any_nil,
    Bag.filled_congr hdate, Bag.filled_congr hfrom, Bag.filled_congr hto,
    Bag.filled_congr hstart, Bag.filled_congr hfinish, Bag.get_congr hcolumn,
    Bag.get_congr hdate, Bag.get_congr hfrom, Bag.get_congr hto, Bag.get_congr hstart,
    Bag.get_congr hfinish]

theorem requestedRelations_congr
    (h : params.get? broadRelationsKey = params'.get? broadRelationsKey) :
    requestedRelations params = requestedRelations params' := by
  rw [requestedRelations, requestedRelations, Bag.get_congr h]

namespace Compiler

variable (c : Compiler)

/-- The keys that say something of a search as a whole: its order, its range of time
and the relations of a broad search. -/
def reservedKeys : List String :=
  broadRelationsKey :: (SortKey.parameterNames ++ TimeRange.parameterNames)

/-- The order and the range of time are read from all parameters that are not
blank. -/
theorem scopedTo_unnamed (bag : Bag) : c.scopedTo [] "" false bag = bag.nonBlank := by
  have hall : bag.without [] = bag := by
    refine Bag.ext ?_
    simp [Bag.without, Bag.filter]
  have hname : (Text.trim "").isEmpty = true := rfl
  rw [scopedTo, Scope.apply, hname, hall]
  rfl

variable {c} {entity : String} {e : Entity} {source : Source} {bag : Bag}

/-- A request is its entity, its bag, and the relations that the bag names. -/
theorem prepare_of_searchInput (hentity : c.registry.get entity = .ok e)
    (hbag : source.searchInput c.settings.broadKey = .ok bag) :
    c.prepare entity source =
      ((requestedRelations bag).mapError .fault).map fun requested => ⟨e, bag, requested⟩ := by
  simp only [prepare, hentity, hbag, bind, Except.bind, Except.mapError]
  cases requestedRelations bag with
  | error fault => rfl
  | ok requested => rfl

variable {bag' : Bag}

/-- Bags that answer alike for the reserved keys ask for the same range of time. -/
theorem requestRange_congr {requested : List String}
    (h : ∀ key ∈ reservedKeys, bag.nonBlank.get? key = bag'.nonBlank.get? key)
    (clock : Clock) (table : Table) :
    c.requestRange clock ⟨e, bag, requested⟩ table =
      c.requestRange clock ⟨e, bag', requested⟩ table := by
  rw [requestRange, requestRange, scopedTo_unnamed, scopedTo_unnamed]
  refine congrArg Logged.value (TimeRange.resolve_congr (fun name hname => h name ?_) _ _ _)
  exact List.mem_cons_of_mem _ (List.mem_append_right _ hname)

/-- They ask for the same order. -/
theorem sort_congr (h : ∀ key ∈ reservedKeys, bag.nonBlank.get? key = bag'.nonBlank.get? key)
    (columns : List String) (nullsFirst : Bool) :
    SortKey.resolve (c.scopedTo [] "" false bag) columns nullsFirst =
      SortKey.resolve (c.scopedTo [] "" false bag') columns nullsFirst := by
  rw [scopedTo_unnamed, scopedTo_unnamed]
  refine SortKey.resolve_congr (fun name hname => h name ?_) nullsFirst
  exact List.mem_cons_of_mem _ (List.mem_append_left _ hname)

end Compiler

end RelationalSearch
