import RelationalSearch.Proofs.Leaves
import RelationalSearch.Proofs.Lookup

/-!
# A bag without one parameter

What becomes of the parts of a search when one parameter is taken out of its bag.
A scope takes it out as well, under the rest of its key, or has never had it
(`RelationalSearch.Scope.apply_without`). The predicate of an entity's own columns,
the order and the range of time look at certain keys only, and do not change when
the parameter has none of them.
-/

namespace RelationalSearch

namespace Bag

variable {b : Bag} {k key : String} {v : Value}

theorem entries_without : (b.without [k]).entries = b.entries.filter fun e => e.1 != k := by
  refine List.filter_congr fun e _ => ?_
  show (!([k].contains e.1)) = _
  rw [List.contains_cons, List.contains_nil, Bool.or_false, bne]

theorem mem_keys_without : key ∈ (b.without [k]).keys ↔ key ∈ b.keys ∧ key ≠ k := by
  simp only [mem_keys, entries_without, List.mem_filter, bne_iff_ne, exists_and_right]

/-- Keys that a bag does not have cannot be taken out of it. -/
theorem without_of_disjoint {keys : List String} (h : ∀ k ∈ keys, k ∉ b.keys) :
    b.without keys = b := by
  refine Bag.ext (List.filter_eq_self.mpr fun e he => ?_)
  have hkey : e.1 ∉ keys := fun hmem => h e.1 hmem (List.mem_map_of_mem he)
  simpa using hkey

theorem without_of_not_mem (h : k ∉ b.keys) : b.without [k] = b :=
  without_of_disjoint fun key hkey => by rwa [List.mem_singleton.mp hkey]

theorem isEmpty_without (h : b.isEmpty = true) : (b.without [k]).isEmpty = true := by
  rw [isEmpty, entries_without, List.isEmpty_iff.mp h]
  rfl

theorem get?_without (h : key ≠ k) : (b.without [k]).get? key = b.get? key :=
  get?_without_of_not_mem fun hk => h (List.mem_singleton.mp hk)

theorem get_without (h : key ≠ k) : (b.without [k]).get key = b.get key :=
  get_congr (get?_without h)

theorem filled_without (h : key ≠ k) : (b.without [k]).filled key = b.filled key :=
  filled_congr (get?_without h)

theorem mem_keys_of_filled (h : b.filled key = true) : key ∈ b.keys := by
  by_contra hkey
  rw [filled, get?_of_not_mem hkey] at h
  cases h

/-- With another key a bag does not hold a single one alone. -/
theorem only_false_of_mem (hk : k ∈ b.keys) (h : k ≠ key) : b.only [key] = false := by
  rw [Bool.eq_false_iff]
  exact fun honly => h ((only_singleton.mp honly).2 k hk)

/-! ### Storing entries -/

theorem without_put_self : (b.put k v).without [k] = b.without [k] := by
  refine Bag.ext ?_
  rw [entries_without, entries_without]
  show (putEntry b.entries k v).filter _ = _
  induction b.entries with
  | nil => simp [putEntry]
  | cons e rest ih =>
    rw [putEntry]
    split
    next he => rw [List.filter_cons_of_neg (by simp), List.filter_cons_of_neg (by simp [he])]
    next he => rw [List.filter_cons, List.filter_cons, ih]

theorem without_put (h : key ≠ k) : (b.put key v).without [k] = (b.without [k]).put key v := by
  refine Bag.ext ?_
  show _ = putEntry (b.without [k]).entries key v
  rw [entries_without, entries_without]
  show (putEntry b.entries key v).filter _ = _
  induction b.entries with
  | nil => simp [putEntry, h]
  | cons e rest ih =>
    rw [putEntry]
    split
    next he =>
      rw [List.filter_cons_of_pos (by simpa using h),
        List.filter_cons_of_pos (by simpa [he] using h), putEntry, if_pos he]
    next he =>
      by_cases hk : e.1 = k
      · rw [List.filter_cons_of_neg (by simp [hk]), List.filter_cons_of_neg (by simp [hk]), ih]
      · rw [List.filter_cons_of_pos (by simpa using hk), List.filter_cons_of_pos (by simpa using hk),
          putEntry, if_neg he, ih]

variable {g : String → Option String} {entries : List (String × Value)}

/-- Entries that are not stored can be left out. -/
theorem storeAll_filter {p : String × Value → Bool}
    (h : ∀ e ∈ entries, p e = false → g e.1 = none) :
    b.storeAll g (entries.filter p) = b.storeAll g entries := by
  rw [storeAll, storeAll]
  induction entries generalizing b with
  | nil => rfl
  | cons e rest ih =>
    have hrest := fun e' he' => h e' (List.mem_cons_of_mem e he')
    cases hp : p e with
    | true => rw [List.filter_cons_of_pos hp, List.foldl_cons, List.foldl_cons, ih hrest]
    | false =>
      rw [List.filter_cons_of_neg (by rw [hp]; decide), ih hrest, List.foldl_cons,
        h e List.mem_cons_self hp]

/-- Leaving out the one entry that is stored under a key leaves out that key. -/
theorem storeAll_filter_of_some {rest : String} (hk : g k = some rest)
    (honly : ∀ k', g k' = some rest → k' = k) :
    (b.without [rest]).storeAll g (entries.filter fun e => e.1 != k) =
      (b.storeAll g entries).without [rest] := by
  rw [storeAll, storeAll]
  induction entries generalizing b with
  | nil => rfl
  | cons e others ih =>
    rw [List.foldl_cons]
    by_cases he : e.1 = k
    · rw [List.filter_cons_of_neg (by simp [he]), he, hk, ← ih, without_put_self]
    · rw [List.filter_cons_of_pos (by simpa using he), List.foldl_cons]
      cases hstored : g e.1 with
      | none => exact ih
      | some key =>
        have hne : key ≠ rest := by
          rintro rfl
          exact he (honly e.1 hstored)
        rw [← ih, without_put hne]

end Bag

/-! ### Scopes -/

namespace Scope

variable {name broadKey key k : String} {ignoreBroad : Bool}

theorem ne_empty_of_keyWithin? (h : keyWithin? name ignoreBroad broadKey key = some k) :
    k ≠ "" ∨ k = broadKey := by
  rw [keyWithin?] at h
  split at h
  · split at h
    · cases h
    next hkept =>
      cases h
      refine Or.inl fun hempty => hkept ?_
      simp [hempty]
  · split at h
    next hkey =>
      cases h
      exact Or.inr (eq_of_beq (Bool.and_eq_true_iff.mp hkey).2)
    · cases h

/-- **A scope of a bag without one parameter**: the scope does not have it, or lacks
it under the rest of its key. An empty rest is not kept where a name is dropped. -/
theorem apply_without (scope : Scope) (bag : Bag) (hk : k ≠ scope.broadKey)
    (hrest : ∀ rest, k = written (Text.trim scope.name) rest → rest ≠ scope.broadKey) :
    scope.apply (bag.without [k]) = scope.apply bag ∨
      ∃ rest, k = written (Text.trim scope.name) rest ∧ (rest ≠ "" ∨ Text.trim scope.name = "") ∧
        scope.apply (bag.without [k]) = (scope.apply bag).without [rest] := by
  by_cases hif : ((Text.trim scope.name).isEmpty && !scope.ignoreBroad) = true
  · have hname : (Text.trim scope.name).isEmpty = true := (Bool.and_eq_true_iff.mp hif).1
    refine Or.inr ⟨k, ?_, Or.inr (String.isEmpty_iff.mp hname), ?_⟩
    · rw [written, if_pos hname]
    · rw [apply, if_pos hif, apply, if_pos hif, Bag.kept_without]
  · rw [apply_eq_storeAll hif, apply_eq_storeAll hif, Bag.kept_without, Bag.entries_without]
    cases hkey : keyWithin? (Text.trim scope.name) scope.ignoreBroad scope.broadKey k with
    | none =>
      refine Or.inl (Bag.storeAll_filter fun e _ he => ?_)
      obtain rfl : e.1 = k := by simpa using he
      exact hkey
    | some rest =>
      have hwritten : k = written (Text.trim scope.name) rest := by
        rcases keyWithin?_source hkey with ⟨hwritten, -⟩ | ⟨-, hbroad, -⟩
        · exact hwritten
        · exact absurd hbroad hk
      have hbroad := hrest rest hwritten
      refine Or.inr ⟨rest, hwritten, ?_, ?_⟩
      · exact Or.inl ((ne_empty_of_keyWithin? hkey).resolve_right hbroad)
      · refine Bag.storeAll_filter_of_some (b := Bag.empty) hkey fun k' hk' => ?_
        rcases keyWithin?_source hk' with ⟨hwritten', -⟩ | ⟨-, -, hbroad'⟩
        · rw [hwritten, hwritten']
        · exact absurd hbroad' hbroad

/-- In a scope without a name the parameter is taken out as it is. -/
theorem apply_without_of_unnamed (scope : Scope) (bag : Bag) (hk : k ≠ scope.broadKey)
    (hname : Text.trim scope.name = "") :
    scope.apply (bag.without [k]) = (scope.apply bag).without [k] := by
  have hwritten : ∀ rest, k = written (Text.trim scope.name) rest → rest = k := by
    rintro rest rfl
    rw [hname]
    rfl
  rcases apply_without scope bag hk
      (fun rest hrest => hwritten rest hrest ▸ hk) with hsame | ⟨rest, hrest, -, happly⟩
  · -- The scope has not kept the parameter, so there is nothing to take out.
    rw [hsame, Bag.without_of_not_mem]
    intro hmem
    rw [← hsame] at hmem
    rcases mem_keys_apply hmem with ⟨hmem, -⟩ | ⟨-, hbroad, -⟩
    · rw [hname] at hmem
      exact (Bag.mem_keys_without.mp hmem).2 rfl
    · exact hk hbroad
  · rw [happly, hwritten rest hrest]

end Scope

/-! ### The predicate of an entity's own columns -/

section Build

variable {table : Table} {columns likeKeys : List String} {params : Bag} {mode : BuildMode}
  {k : String}

/-- Without a broad search nothing is compared when there is no parameter, so that
this case needs no distinction. -/
theorem buildPredicate_eq_of_broad (h : mode.broad = true → params.isEmpty = false) :
    buildPredicate table columns likeKeys params mode =
      Group.of .and
        [(Group.of mode.connective
            (requestedLeaves table columns likeKeys params mode).1).toPredicate,
          (Group.of mode.connective
            (requestedLeaves table columns likeKeys params mode).2).toPredicate] := by
  cases hempty : params.isEmpty with
  | false => exact buildPredicate_eq hempty
  | true =>
    have hbroad : mode.broad = false := by
      by_contra hbroad
      exact absurd (h (by simpa using hbroad)) (by rw [hempty]; decide)
    rw [buildPredicate, if_pos hempty, requestedLeaves, partitionColumns, hbroad,
      if_neg (by decide), Bag.isEmpty_iff.mp hempty]
    rfl

theorem partitionColumns_without (hcolumns : k ∉ columns) (broad : Bool) :
    partitionColumns columns likeKeys (params.without [k]) broad =
      partitionColumns columns likeKeys params broad := by
  have hkeys : (params.without [k]).keys.filter columns.contains =
      params.keys.filter columns.contains := by
    rw [Bag.keys, Bag.entries_without, Bag.keys, List.filter_map, List.filter_map,
      List.filter_filter]
    refine congrArg _ (List.filter_congr fun e _ => ?_)
    by_cases he : e.1 = k
    · simp [he, hcolumns]
    · simp [he]
  rw [partitionColumns, partitionColumns, hkeys]

/-- **The predicate of an entity's own columns looks at its columns and the
broad-search parameter only.** -/
theorem buildPredicate_without (hcolumns : k ∉ columns) (hk : k ≠ mode.broadKey)
    (hbroad : mode.broad = true → mode.broadKey ∈ params.keys) :
    buildPredicate table columns likeKeys (params.without [k]) mode =
      buildPredicate table columns likeKeys params mode := by
  have hvalue : ∀ column ∈ columns,
      mode.valueFor (params.without [k]) column = mode.valueFor params column := by
    intro column hcolumn
    have hne : column ≠ k := fun hc => hcolumns (hc ▸ hcolumn)
    rw [BuildMode.valueFor, BuildMode.valueFor, Bag.get?_without hne, Bag.get_without hne,
      Bag.get_without (Ne.symm hk)]
  have hleaves : requestedLeaves table columns likeKeys (params.without [k]) mode =
      requestedLeaves table columns likeKeys params mode := by
    rw [requestedLeaves, requestedLeaves, partitionColumns_without hcolumns]
    refine Prod.ext (List.flatMap_congr fun column hcolumn => ?_)
      (List.flatMap_congr fun column hcolumn => ?_)
    · rw [hvalue column (mem_of_partitionColumns (Or.inl hcolumn))]
    · rw [hvalue column (mem_of_partitionColumns (Or.inr hcolumn))]
  rw [buildPredicate_eq_of_broad, buildPredicate_eq_of_broad, hleaves]
  · exact fun h => Bag.isEmpty_eq_false (hbroad h)
  · exact fun h => Bag.isEmpty_eq_false (Bag.mem_keys_without.mpr ⟨hbroad h, Ne.symm hk⟩)

end Build

/-! ### The order and the range of time -/

section Resolve

variable {params : Bag} {columns : List String} {k : String}

theorem SortKey.resolve_without (hk : k ∉ SortKey.parameterNames) (nullsFirst : Bool) :
    SortKey.resolve (params.without [k]) columns nullsFirst =
      SortKey.resolve params columns nullsFirst :=
  SortKey.resolve_congr (fun _ hname => Bag.get?_without (ne_of_mem_of_not_mem hname hk)) nullsFirst

theorem TimeRange.resolve_without (hk : k ∉ TimeRange.parameterNames) (usual zoneName : String)
    (clock : Clock) :
    TimeRange.resolve (params.without [k]) usual zoneName columns clock =
      TimeRange.resolve params usual zoneName columns clock :=
  TimeRange.resolve_congr (fun _ hname => Bag.get?_without (ne_of_mem_of_not_mem hname hk)) usual
    zoneName clock

theorem requestedRelations_without (hk : k ≠ broadRelationsKey) :
    requestedRelations (params.without [k]) = requestedRelations params :=
  requestedRelations_congr (Bag.get?_without (Ne.symm hk))

end Resolve

end RelationalSearch
