import RelationalSearch.Proofs.Compilation
import RelationalSearch.Proofs.Leaves

/-!
# The two parts of the searchable columns

The columns that take part in a search fall into those compared loosely and those
compared for equality (`RelationalSearch.partitionColumns`). A broad search and one without
split them differently: the one goes through the names of the loosely compared columns, in
their order and each once, and the other through the parameters. Still both are the same
split of the participating columns (`RelationalSearch.partitionColumns_split`): a column is
compared loosely exactly when it is named so, whatever else is named.

The main statement is `RelationalSearch.columnParts_partitionColumns`: the two parts share no
column, no column stands in them twice, together they are the participating columns, and in
the predicate that is built from them no column is compared in both groups, nor a column
that does not take part.
-/

namespace RelationalSearch

theorem mem_firstOccurrences {xs : List String} {x : String} : x ∈ firstOccurrences xs ↔ x ∈ xs :=
  ((foldl_noteVisit xs List.nodup_nil).2 x).trans (or_iff_right List.not_mem_nil)

theorem nodup_firstOccurrences (xs : List String) : (firstOccurrences xs).Nodup :=
  (foldl_noteVisit xs List.nodup_nil).1

/-- **The columns that take part in a search**: in a broad search all of them, and else
those that have a parameter, in the order of the parameters. -/
def participatingColumns (columns : List String) (params : Bag) (broad : Bool) : List String :=
  if broad then columns else params.keys.filter columns.contains

/-- **A split of the participating columns** into those compared loosely and those compared
for equality, by the names of the former. -/
structure ColumnParts (columns likeKeys : List String) (params : Bag) (broad : Bool)
    (loose exact : List String) : Prop where
  /-- No column is compared loosely twice. -/
  nodup_loose : loose.Nodup
  /-- No column is compared for equality twice. -/
  nodup_exact : exact.Nodup
  /-- No column is compared in both ways. -/
  disjoint : loose.Disjoint exact
  /-- In a broad search every column is compared. -/
  every : broad = true → (loose ++ exact).Perm columns
  /-- Without one the columns are compared that have a parameter. -/
  requested : broad = false → (loose ++ exact).Perm (params.keys.filter columns.contains)
  /-- The columns compared loosely are those named so. -/
  mem_loose_iff : ∀ column, column ∈ loose ∨ column ∈ exact → (column ∈ loose ↔ column ∈ likeKeys)

/-- Together the two parts are the participating columns. -/
theorem ColumnParts.perm {columns likeKeys : List String} {params : Bag} {broad : Bool}
    {loose exact : List String} (h : ColumnParts columns likeKeys params broad loose exact) :
    (loose ++ exact).Perm (participatingColumns columns params broad) := by
  cases broad with
  | true => exact h.every rfl
  | false => exact h.requested rfl

section Split

variable {columns : List String} (likeKeys : List String) (params : Bag) (broad : Bool)

theorem nodup_participatingColumns (hcolumns : columns.Nodup) :
    (participatingColumns columns params broad).Nodup := by
  cases broad with
  | true => exact hcolumns
  | false => exact params.nodup.filter _

/-- The two ways of splitting the columns are one: by whether a participating column is
named among the loosely compared ones. Only the order of the latter differs. -/
theorem partitionColumns_split (hcolumns : columns.Nodup) :
    (partitionColumns columns likeKeys params broad).1.Perm
        ((participatingColumns columns params broad).filter likeKeys.contains) ∧
      (partitionColumns columns likeKeys params broad).2 =
        (participatingColumns columns params broad).filter fun c => !likeKeys.contains c := by
  cases broad with
  | false => exact ⟨List.Perm.refl _, rfl⟩
  | true =>
    have hmem : ∀ column, column ∈ (firstOccurrences likeKeys).filter columns.contains ↔
        column ∈ likeKeys ∧ column ∈ columns := by
      intro column
      rw [List.mem_filter, mem_firstOccurrences, List.contains_iff_mem]
    refine ⟨?_, List.filter_congr fun column hcolumn => ?_⟩
    · refine (List.perm_ext_iff_of_nodup ((nodup_firstOccurrences _).filter _)
        (hcolumns.filter _)).mpr fun column => ?_
      rw [hmem, List.mem_filter, List.contains_iff_mem, and_comm]
    · rw [Bool.eq_iff_iff, Bool.not_eq_true', Bool.not_eq_true', ← Bool.not_eq_true,
        ← Bool.not_eq_true, List.contains_iff_mem, List.contains_iff_mem, hmem,
        and_iff_left hcolumn]

/-- The two parts are a split of the participating columns. -/
theorem columnParts_split (hcolumns : columns.Nodup) :
    ColumnParts columns likeKeys params broad (partitionColumns columns likeKeys params broad).1
      (partitionColumns columns likeKeys params broad).2 := by
  obtain ⟨hloose, hexact⟩ := partitionColumns_split likeKeys params broad hcolumns
  have hnodup := nodup_participatingColumns params broad hcolumns
  rw [hexact]
  have hperm := (hloose.append_right _).trans (List.filter_append_perm likeKeys.contains
    (participatingColumns columns params broad))
  have hlike : ∀ column, column ∈ (partitionColumns columns likeKeys params broad).1 →
      column ∈ likeKeys := fun column hcolumn =>
    List.contains_iff_mem.mp (List.mem_filter.mp (hloose.mem_iff.mp hcolumn)).2
  have hother : ∀ column, column ∈ ((participatingColumns columns params broad).filter fun c =>
      !likeKeys.contains c) → column ∉ likeKeys := by
    intro column hcolumn hnamed
    have hnot := (List.mem_filter.mp hcolumn).2
    rw [List.contains_iff_mem.mpr hnamed] at hnot
    cases hnot
  exact
    { nodup_loose := hloose.nodup_iff.mpr (hnodup.filter _)
      nodup_exact := hnodup.filter _
      disjoint := fun column h h' => hother column h' (hlike column h)
      every := fun hbroad => hperm.trans (List.Perm.of_eq (if_pos hbroad))
      requested := fun hbroad =>
        hperm.trans (List.Perm.of_eq (if_neg (by rw [hbroad]; decide)))
      mem_loose_iff := fun column h =>
        ⟨hlike column, fun hnamed => h.resolve_right fun h' => hother column h' hnamed⟩ }

end Split

/-! ### The two groups of a predicate -/

/-- The columns that a group compares anywhere, also behind semi-joins. -/
def Group.comparedColumns (g : Group) : List String := g.located.map fun l => l.2.column

section Groups

variable (table : Table) (columns likeKeys : List String) (params : Bag) (mode : BuildMode)

/-- The group of the leaves of one part; without parameters there are none. -/
def partGroup (leaves : List Predicate) : Group :=
  if params.isEmpty then Group.empty else Group.of mode.connective leaves

/-- The group of the loose comparisons. -/
def looseGroup : Group :=
  partGroup params mode (requestedLeaves table columns likeKeys params mode).1

/-- The group of the comparisons for equality. -/
def exactGroup : Group :=
  partGroup params mode (requestedLeaves table columns likeKeys params mode).2

/-- A predicate asks for both of its groups. -/
theorem buildPredicate_eq_groups :
    buildPredicate table columns likeKeys params mode =
      Group.of .and [(looseGroup table columns likeKeys params mode).toPredicate,
        (exactGroup table columns likeKeys params mode).toPredicate] := by
  rw [looseGroup, exactGroup, partGroup, partGroup]
  cases hempty : params.isEmpty with
  | true =>
    rw [buildPredicate, if_pos hempty]
    rfl
  | false =>
    rw [buildPredicate_eq hempty]
    rfl

variable {table columns likeKeys params mode}

theorem located_buildPredicate :
    (buildPredicate table columns likeKeys params mode).located =
      (looseGroup table columns likeKeys params mode).located ++
        (exactGroup table columns likeKeys params mode).located := by
  rw [buildPredicate_eq_groups, Group.located_of]
  simp only [Predicate.locatedIn, Group.located_toPredicate, List.append_nil]

/-- The group of one part compares no columns but those that its leaves are made for. -/
theorem comparedColumns_partGroup {names : List String} {leaf : String → List Predicate}
    (hleaf : ∀ column, ∀ p ∈ leaf column, p.IsLeaf column) :
    (partGroup params mode (names.flatMap leaf)).comparedColumns ⊆ names := by
  intro column h
  rw [partGroup] at h
  split at h
  · exact absurd h List.not_mem_nil
  · obtain ⟨l, hl, rfl⟩ := List.mem_map.mp h
    rw [Group.located_of, Predicate.mem_locatedIn] at hl
    obtain ⟨p, hp, hl⟩ := hl
    obtain ⟨name, hname, hp⟩ := List.mem_flatMap.mp hp
    rwa [(hleaf name p hp).column_eq hl]

theorem comparedColumns_looseGroup :
    (looseGroup table columns likeKeys params mode).comparedColumns ⊆
      (partitionColumns columns likeKeys params mode.broad).1 :=
  comparedColumns_partGroup fun _ _ hp => Predicate.isLeaf_of_mem_looseLeaf hp

theorem comparedColumns_exactGroup :
    (exactGroup table columns likeKeys params mode).comparedColumns ⊆
      (partitionColumns columns likeKeys params mode.broad).2 :=
  comparedColumns_partGroup fun _ _ hp => Predicate.isLeaf_of_mem_exactLeaf hp

end Groups

/-- **The two parts of the searchable columns.** When no column stands twice in the list of
columns, the participating columns are split into those compared loosely and those compared
for equality. So whatever predicate is built, it asks for two groups, one for each part,
that compare no column both, and it compares none but participating columns. -/
theorem columnParts_partitionColumns {columns : List String} (hcolumns : columns.Nodup)
    (likeKeys : List String) (params : Bag) (broad : Bool) :
    ColumnParts columns likeKeys params broad (partitionColumns columns likeKeys params broad).1
        (partitionColumns columns likeKeys params broad).2 ∧
      ∀ (table : Table) (mode : BuildMode), mode.broad = broad →
        let whole := buildPredicate table columns likeKeys params mode
        let loose := looseGroup table columns likeKeys params mode
        let exact := exactGroup table columns likeKeys params mode
        whole = Group.of .and [loose.toPredicate, exact.toPredicate] ∧
          loose.comparedColumns ⊆ (partitionColumns columns likeKeys params broad).1 ∧
          exact.comparedColumns ⊆ (partitionColumns columns likeKeys params broad).2 ∧
          loose.comparedColumns.Disjoint exact.comparedColumns ∧
          whole.comparedColumns = loose.comparedColumns ++ exact.comparedColumns ∧
          whole.comparedColumns ⊆ participatingColumns columns params broad := by
  have hparts := columnParts_split likeKeys params broad hcolumns
  refine ⟨hparts, ?_⟩
  rintro table mode rfl
  have hloose : (looseGroup table columns likeKeys params mode).comparedColumns ⊆ _ :=
    comparedColumns_looseGroup
  have hexact : (exactGroup table columns likeKeys params mode).comparedColumns ⊆ _ :=
    comparedColumns_exactGroup
  have hwhole : (buildPredicate table columns likeKeys params mode).comparedColumns =
      (looseGroup table columns likeKeys params mode).comparedColumns ++
        (exactGroup table columns likeKeys params mode).comparedColumns := by
    rw [Group.comparedColumns, located_buildPredicate, List.map_append]
    rfl
  refine ⟨buildPredicate_eq_groups .., hloose, hexact,
    fun _ h h' => hparts.disjoint (hloose h) (hexact h'), hwhole, fun column h => ?_⟩
  rw [hwhole, List.mem_append] at h
  exact hparts.perm.mem_iff.mp
    (List.mem_append.mpr (h.imp (fun h => hloose h) fun h => hexact h))

/-- A broad search of a pond, where a loosely compared column is named twice and another one
is named that a pond does not have. -/
theorem columnParts_partitionColumns_pond :
    ["name", "depth"].Nodup ∧
      ColumnParts ["name", "depth"] ["owner", "name", "name"] (Bag.single "q" (.int 3)) true
        ["name"] ["depth"] ∧
      ∀ (table : Table) (mode : BuildMode), mode.broad = true →
        (looseGroup table ["name", "depth"] ["owner", "name", "name"] (Bag.single "q" (.int 3))
          mode).comparedColumns ⊆ ["name"] ∧
        (exactGroup table ["name", "depth"] ["owner", "name", "name"] (Bag.single "q" (.int 3))
          mode).comparedColumns ⊆ ["depth"] := by
  have hcolumns : ["name", "depth"].Nodup := by decide
  obtain ⟨hparts, hgroups⟩ := columnParts_partitionColumns hcolumns ["owner", "name", "name"]
    (Bag.single "q" (.int 3)) true
  refine ⟨hcolumns, hparts, fun table mode hbroad => ?_⟩
  obtain ⟨-, hloose, hexact, -, -, -⟩ := hgroups table mode hbroad
  exact ⟨hloose, hexact⟩

end RelationalSearch
