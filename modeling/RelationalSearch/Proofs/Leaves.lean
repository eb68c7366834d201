import RelationalSearch.Proofs.Meaning
import RelationalSearch.Proofs.Scoping

/-!
# The comparisons of an entity's own columns

Whatever is compared at a column is a leaf of the predicate: a comparison of this
column, or alternatives that are comparisons of it
(`RelationalSearch.Predicate.IsLeaf`).

Without a broad search the predicate of an entity compares exactly the columns
that have a parameter, each with the value of its parameter, and no comparison of
one column depends on the others. What a single value of a single column
contributes is `RelationalSearch.Table.leaves`; the predicate as a whole holds
these comparisons (`RelationalSearch.mem_located_buildPredicate`), and when the
columns are not alternatives of each other it asks for all of them
(`RelationalSearch.Contents.satisfies_buildPredicate`).
-/

namespace RelationalSearch

/-- **What a value contributes at a column**: a comparison, a group of
alternatives, or nothing. -/
def Table.leaves (t : Table) (likeKeys : List String) (forceLike : Bool) (column : String)
    (v : Value) : List Predicate :=
  if likeKeys.contains column then Predicate.looseLeaf column v (t.isStringLike column)
  else Predicate.exactLeaf column v (t.isStringLike column) forceLike

/-! ### Leaves -/

namespace Predicate

/-- **What the value of a column becomes**: a comparison of this column, or
alternatives that are comparisons of this column. -/
inductive IsLeaf (column : String) : Predicate → Prop
  /-- A single comparison. -/
  | comparison {c : Condition} (h : c.column = column) : IsLeaf column (condition c)
  /-- Alternatives. -/
  | alternatives {parts : List Predicate}
      (h : ∀ p ∈ parts, ∃ c : Condition, c.column = column ∧ p = condition c) :
      IsLeaf column (Group.of .or parts).toPredicate

variable {column : String} {p : Predicate}

theorem column_of_make? {v : Value} {stringLike like : Bool} {c : Condition}
    (h : Condition.make? column v stringLike like = some c) : c.column = column := by
  unfold Condition.make? at h
  split at h
  · cases h
  · split at h
    · cases h
      rfl
    · cases h
      rfl
    · split at h
      · dsimp only at h
        split at h
        · cases h
        · cases h
          rfl
      · cases h
        rfl

theorem isLeaf_anyLike (values : List Value) (stringLike : Bool) :
    IsLeaf column (Group.anyLike column values stringLike).toPredicate := by
  refine .alternatives fun p hp => ?_
  obtain ⟨c, hc, rfl⟩ := List.mem_map.mp hp
  obtain ⟨v, -, hmake⟩ := List.mem_filterMap.mp hc
  exact ⟨c, column_of_make? hmake, rfl⟩

theorem isLeaf_anyEqual (values : List Value) (stringLike : Bool) :
    IsLeaf column (Group.anyEqual column values stringLike).toPredicate := by
  refine .alternatives fun p hp => ?_
  rcases List.mem_append.mp hp with hp | hp
  · split at hp
    · exact absurd hp List.not_mem_nil
    · exact ⟨_, rfl, List.mem_singleton.mp hp⟩
  · split at hp
    · exact ⟨_, rfl, List.mem_singleton.mp hp⟩
    · exact absurd hp List.not_mem_nil

theorem isLeaf_of_mem_option {v : Value} {stringLike like : Bool}
    (h : p ∈ ((Condition.make? column v stringLike like).map condition).toList) :
    IsLeaf column p := by
  obtain ⟨c, hmake, rfl⟩ := Option.map_eq_some_iff.mp (Option.mem_toList.mp h)
  exact .comparison (column_of_make? hmake)

theorem isLeaf_of_mem_looseLeaf {value : Value} {stringLike : Bool}
    (h : p ∈ looseLeaf column value stringLike) : IsLeaf column p := by
  unfold looseLeaf at h
  split at h
  · rw [List.mem_singleton.mp h]
    exact isLeaf_anyLike _ _
  · exact isLeaf_of_mem_option h

theorem isLeaf_of_mem_exactLeaf {value : Value} {stringLike forceLike : Bool}
    (h : p ∈ exactLeaf column value stringLike forceLike) : IsLeaf column p := by
  unfold exactLeaf at h
  split at h
  · rw [List.mem_singleton.mp h]
    split
    · exact isLeaf_anyLike _ _
    · exact isLeaf_anyEqual _ _
  · exact isLeaf_of_mem_option h

/-- A leaf holds no semi-join. -/
theorem IsLeaf.joins_eq_nil (h : IsLeaf column p) : p.joins = [] := by
  cases h with
  | comparison => rfl
  | alternatives hparts =>
    rw [Group.joins_toPredicate, Group.joins_of]
    refine joinsIn_eq_nil fun q hq => ?_
    obtain ⟨c, -, rfl⟩ := hparts q hq
    rfl

/-- A leaf compares one column. -/
theorem IsLeaf.column_eq (h : IsLeaf column p) {l : List Relation × Condition}
    (hl : l ∈ p.located) : l.2.column = column := by
  cases h with
  | comparison hc =>
    rw [List.mem_singleton.mp hl]
    exact hc
  | alternatives hparts =>
    rw [Group.located_toPredicate, Group.located_of, mem_locatedIn] at hl
    obtain ⟨q, hq, hl⟩ := hl
    obtain ⟨c, hc, rfl⟩ := hparts q hq
    rw [List.mem_singleton.mp hl]
    exact hc

end Predicate

/-! ### The predicate of an entity's own columns -/

section Build

variable {table : Table} {columns likeKeys : List String} {params : Bag} {mode : BuildMode}

/-- Both parts hold columns of the list only, also when loosely compared columns are
named that are not in it. -/
theorem mem_of_partitionColumns {broad : Bool} {column : String}
    (h : column ∈ (partitionColumns columns likeKeys params broad).1 ∨
      column ∈ (partitionColumns columns likeKeys params broad).2) : column ∈ columns := by
  rw [partitionColumns] at h
  split at h
  · rcases h with h | h
    · exact List.contains_iff_mem.mp (List.mem_filter.mp h).2
    · exact (List.mem_filter.mp h).1
  · have hrequested : column ∈ params.keys.filter columns.contains :=
      h.elim (fun h => (List.mem_filter.mp h).1) fun h => (List.mem_filter.mp h).1
    exact List.contains_iff_mem.mp (List.mem_filter.mp hrequested).2

/-- The comparisons that are made without a broad search: those compared loosely
and then those compared for equality. -/
def requestedLeaves (table : Table) (columns likeKeys : List String) (params : Bag)
    (mode : BuildMode) : List Predicate × List Predicate :=
  let parts := partitionColumns columns likeKeys params mode.broad
  (parts.1.flatMap fun c =>
      Predicate.looseLeaf c (mode.valueFor params c) (table.isStringLike c),
    parts.2.flatMap fun c =>
      Predicate.exactLeaf c (mode.valueFor params c) (table.isStringLike c) mode.forceLike)

theorem buildPredicate_eq (h : params.isEmpty = false) :
    buildPredicate table columns likeKeys params mode =
      Group.of .and
        [(Group.of mode.connective
            (requestedLeaves table columns likeKeys params mode).1).toPredicate,
          (Group.of mode.connective
            (requestedLeaves table columns likeKeys params mode).2).toPredicate] := by
  rw [buildPredicate, if_neg (by rw [h]; decide)]
  rfl

/-- A predicate that asks for something has a column in one of the two parts. -/
theorem exists_mem_partitionColumns
    (h : (buildPredicate table columns likeKeys params mode).isEmpty = false) :
    ∃ column, column ∈ (partitionColumns columns likeKeys params mode.broad).1 ∨
      column ∈ (partitionColumns columns likeKeys params mode.broad).2 := by
  by_contra hnone
  obtain ⟨hloose, hexact⟩ := not_or.mp (exists_or.not.mp hnone)
  have hloose := List.eq_nil_iff_forall_not_mem.mpr (not_exists.mp hloose)
  have hexact := List.eq_nil_iff_forall_not_mem.mpr (not_exists.mp hexact)
  cases hempty : params.isEmpty with
  | true =>
    rw [buildPredicate, if_pos hempty] at h
    cases h
  | false =>
    rw [buildPredicate_eq hempty, requestedLeaves, hloose, hexact] at h
    cases h

/-- **All that is compared is a leaf** of one of the columns, in a broad search too. -/
theorem isLeaf_of_mem_requestedLeaves {p : Predicate}
    (h : p ∈ (requestedLeaves table columns likeKeys params mode).1 ∨
      p ∈ (requestedLeaves table columns likeKeys params mode).2) :
    ∃ column ∈ columns, p.IsLeaf column := by
  rcases h with h | h
  · obtain ⟨column, hcolumn, hp⟩ := List.mem_flatMap.mp h
    exact ⟨column, mem_of_partitionColumns (Or.inl hcolumn), Predicate.isLeaf_of_mem_looseLeaf hp⟩
  · obtain ⟨column, hcolumn, hp⟩ := List.mem_flatMap.mp h
    exact ⟨column, mem_of_partitionColumns (Or.inr hcolumn), Predicate.isLeaf_of_mem_exactLeaf hp⟩

/-- Whatever is collected from the predicate of an entity's own columns is collected
from what is compared in one of its two parts. -/
theorem exists_requested_of_mem_flatMap {β : Type} {f : Predicate → List β} {x : β}
    (hf : ∀ c ms, f (.group c ms) = ms.flatMap f)
    (h : x ∈ (buildPredicate table columns likeKeys params mode).members.flatMap f) :
    ∃ p, (p ∈ (requestedLeaves table columns likeKeys params mode).1 ∨
      p ∈ (requestedLeaves table columns likeKeys params mode).2) ∧ x ∈ f p := by
  cases hempty : params.isEmpty with
  | true =>
    rw [buildPredicate, if_pos hempty] at h
    exact absurd h List.not_mem_nil
  | false =>
    rw [buildPredicate_eq hempty, Group.flatMap_of hf, List.flatMap_cons, List.flatMap_singleton,
      Group.toPredicate, Group.toPredicate, hf, hf, Group.flatMap_of hf, Group.flatMap_of hf,
      ← List.flatMap_append] at h
    obtain ⟨p, hp, hx⟩ := List.mem_flatMap.mp h
    exact ⟨p, List.mem_append.mp hp, hx⟩

/-- It is collected from one of its leaves. -/
theorem exists_leaf_of_mem_flatMap {β : Type} {f : Predicate → List β} {x : β}
    (hf : ∀ c ms, f (.group c ms) = ms.flatMap f)
    (h : x ∈ (buildPredicate table columns likeKeys params mode).members.flatMap f) :
    ∃ p, (∃ column ∈ columns, p.IsLeaf column) ∧ x ∈ f p := by
  obtain ⟨p, hp, hx⟩ := exists_requested_of_mem_flatMap hf h
  exact ⟨p, isLeaf_of_mem_requestedLeaves hp, hx⟩

/-- **The predicate of an entity's own columns holds no semi-join**, in a broad
search either. -/
theorem joins_buildPredicate : (buildPredicate table columns likeKeys params mode).joins = [] := by
  rw [List.eq_nil_iff_forall_not_mem]
  intro x hx
  rw [Group.joins, Predicate.joinsIn_eq_flatMap] at hx
  obtain ⟨p, ⟨column, -, hleaf⟩, hx⟩ :=
    exists_leaf_of_mem_flatMap (fun _ ms => Predicate.joinsIn_eq_flatMap ms) hx
  rw [hleaf.joins_eq_nil] at hx
  exact List.not_mem_nil hx

/-- **An entity compares only the columns it is given**, none of them inside a
semi-join. -/
theorem of_mem_located_buildPredicate {l : List Relation × Condition}
    (h : l ∈ (buildPredicate table columns likeKeys params mode).located) :
    l.1 = [] ∧ l.2.column ∈ columns := by
  refine ⟨Predicate.path_eq_nil_of_joinsIn_eq_nil _ joins_buildPredicate h, ?_⟩
  rw [Group.located, Predicate.locatedIn_eq_flatMap] at h
  obtain ⟨p, ⟨column, hcolumn, hleaf⟩, hl⟩ :=
    exists_leaf_of_mem_flatMap (fun _ ms => Predicate.locatedIn_eq_flatMap ms) h
  rwa [hleaf.column_eq hl]

/-- So the columns of an entity bring no semi-join into a search. -/
theorem SearchContext.semiJoins_ownPredicate {c : SearchContext} {e : Entity} {bag : Bag}
    {ignoreBroad : Bool} {own : Group} (h : c.ownPredicate e bag ignoreBroad = .ok own) :
    own.semiJoins = [] := by
  rw [SearchContext.ownPredicate] at h
  cases htable : c.table e with
  | error err =>
    rw [htable] at h
    cases h
  | ok table =>
    rw [htable] at h
    cases h
    exact Group.semiJoins_eq_nil_iff.mpr joins_buildPredicate

/-- The two parts hold what the parameters of the columns contribute. -/
theorem mem_requestedLeaves (hbroad : mode.broad = false) {p : Predicate} :
    (p ∈ (requestedLeaves table columns likeKeys params mode).1 ∨
        p ∈ (requestedLeaves table columns likeKeys params mode).2) ↔
      ∃ column value, (column, value) ∈ params.entries ∧ column ∈ columns ∧
        p ∈ table.leaves likeKeys mode.forceLike column value := by
  have hvalue : ∀ {column value}, (column, value) ∈ params.entries →
      mode.valueFor params column = value := by
    intro column value hm
    rw [BuildMode.valueFor, hbroad, if_neg (by decide), Bag.get_of_mem hm]
  simp only [requestedLeaves, partitionColumns, hbroad, Bool.false_eq_true, if_false,
    List.mem_flatMap, List.mem_filter, Bag.mem_keys]
  constructor
  · rintro (⟨column, ⟨⟨⟨value, hm⟩, hcolumn⟩, hlike⟩, hp⟩ |
      ⟨column, ⟨⟨⟨value, hm⟩, hcolumn⟩, hlike⟩, hp⟩)
    · rw [hvalue hm] at hp
      refine ⟨column, value, hm, List.contains_iff_mem.mp hcolumn, ?_⟩
      rwa [Table.leaves, if_pos hlike]
    · rw [hvalue hm] at hp
      refine ⟨column, value, hm, List.contains_iff_mem.mp hcolumn, ?_⟩
      rwa [Table.leaves, if_neg (by simpa using hlike)]
  · rintro ⟨column, value, hm, hcolumn, hp⟩
    rw [Table.leaves] at hp
    have hcolumn' : columns.contains column = true := List.contains_iff_mem.mpr hcolumn
    split at hp
    next hlike =>
      exact Or.inl ⟨column, ⟨⟨⟨value, hm⟩, hcolumn'⟩, hlike⟩, by rwa [hvalue hm]⟩
    next hlike =>
      exact Or.inr ⟨column, ⟨⟨⟨value, hm⟩, hcolumn'⟩, by simpa using hlike⟩, by rwa [hvalue hm]⟩

/-- **The comparisons of an entity's own columns** are those that the values of
the parameters contribute at the columns they name. -/
theorem mem_located_buildPredicate (hbroad : mode.broad = false)
    {l : List Relation × Condition} :
    l ∈ (buildPredicate table columns likeKeys params mode).located ↔
      ∃ column value, (column, value) ∈ params.entries ∧ column ∈ columns ∧
        l ∈ Predicate.locatedIn (table.leaves likeKeys mode.forceLike column value) := by
  cases hempty : params.isEmpty with
  | true =>
    have hentries : params.entries = [] := List.isEmpty_iff.mp hempty
    rw [buildPredicate, if_pos hempty, Group.located_empty, hentries]
    simp
  | false =>
    rw [buildPredicate_eq hempty, Group.located_of, Predicate.mem_locatedIn]
    simp only [List.mem_cons, List.not_mem_nil, or_false, exists_eq_or_imp, exists_eq_left,
      Group.located_toPredicate, Group.located_of, Predicate.mem_locatedIn]
    rw [← exists_or]
    simp only [← or_and_right, mem_requestedLeaves hbroad]
    constructor
    · rintro ⟨p, ⟨column, value, hm, hcolumn, hp⟩, hl⟩
      exact ⟨column, value, hm, hcolumn, p, hp, hl⟩
    · rintro ⟨column, value, hm, hcolumn, p, hp, hl⟩
      exact ⟨p, ⟨column, value, hm, hcolumn, hp⟩, hl⟩

/-- What a value contributes at a column is what the predicate of this column alone
compares. -/
theorem mem_located_buildPredicate_single (hbroad : mode.broad = false) {column : String}
    {value : Value} {l : List Relation × Condition} :
    l ∈ (buildPredicate table [column] likeKeys (Bag.single column value) mode).located ↔
      l ∈ Predicate.locatedIn (table.leaves likeKeys mode.forceLike column value) := by
  rw [mem_located_buildPredicate hbroad]
  constructor
  · rintro ⟨column', value', hm, -, hl⟩
    cases List.mem_singleton.mp hm
    exact hl
  · exact fun hl => ⟨column, value, List.mem_singleton.mpr rfl, List.mem_singleton.mpr rfl, hl⟩

/-- **What an entity's own columns ask for**, when they are not alternatives of
each other: all that the values of the parameters contribute. -/
theorem Contents.satisfies_buildPredicate {db : Contents} {test : Condition → db.Row → Prop}
    {row : db.Row} (hbroad : mode.broad = false) (hor : mode.forceOr = false) :
    db.Satisfies test (buildPredicate table columns likeKeys params mode).toPredicate row ↔
      ∀ column value, (column, value) ∈ params.entries → column ∈ columns →
        ∀ p ∈ table.leaves likeKeys mode.forceLike column value, db.Satisfies test p row := by
  have hconnective : mode.connective = .and := by
    rw [BuildMode.connective, hbroad, hor]
    rfl
  cases hempty : params.isEmpty with
  | true =>
    have hentries : params.entries = [] := List.isEmpty_iff.mp hempty
    rw [buildPredicate, if_pos hempty, hentries]
    exact iff_of_true (satisfies_of_asksNothing rfl) fun _ _ h => absurd h List.not_mem_nil
  | false =>
    rw [buildPredicate_eq hempty, satisfies_of, Satisfies, satisfiesAll_iff, hconnective]
    simp only [List.forall_mem_cons, List.not_mem_nil, false_implies, implies_true, and_true,
      satisfies_of, Satisfies, satisfiesAll_iff]
    rw [← forall_and]
    simp only [← or_imp, mem_requestedLeaves hbroad]
    constructor
    · intro h column value hm hcolumn p hp
      exact h p ⟨column, value, hm, hcolumn, hp⟩
    · rintro h p ⟨column, value, hm, hcolumn, hp⟩
      exact h column value hm hcolumn p hp

end Build

end RelationalSearch
