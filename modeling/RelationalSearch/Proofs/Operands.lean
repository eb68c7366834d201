import RelationalSearch.Proofs.Exclusion

/-!
# What columns are compared with

Every comparison in a search stems from a value that the request gives for its column,
under a key that ends in the name of the column or, in a broad search, in the key of the
broad-search parameter (`RelationalSearch.Bag.Offers`). There are four things that such a
value can become, and they are the constructors of `RelationalSearch.Condition.MadeOf`:
this holds of the comparison of a single value, of the alternatives made of a list, and
then of every search (`RelationalSearch.Compiler.MakesOf.madeOf`), whatever the values are.

When the request gives nothing but scalars and lists of scalars, the four are well formed
(`RelationalSearch.Condition.WellFormed`). No column is then compared for equality with a
truth value or with no value, and a column that holds no text is never compared with a
word, nor with a pattern made of one.
-/

namespace RelationalSearch

/-! ### The values given for a column -/

/-- The single values of a parameter: those of a list, or the value itself. -/
def Value.singles : Value → List Value
  | .list items => items
  | v => [v]

/-- A value that is no list stands for itself. -/
theorem Value.mem_singles_self {v : Value} (h : ∀ items, v ≠ .list items) : v ∈ v.singles := by
  cases v with
  | list items => exact absurd rfl (h items)
  | _ => exact List.mem_singleton.mpr rfl

/-- Only truth values are stored in another form. -/
theorem Value.asStored_of_ne_bool {v : Value} (h : ∀ b, v ≠ .bool b) : v.asStored = v := by
  cases v with
  | bool b => exact absurd rfl (h b)
  | _ => rfl

/-- **Whether a bag gives a value for a column**: under a key that ends in the name of the
column, or in the key of the broad-search parameter. -/
def Bag.Offers (bag : Bag) (broadKey column : String) (w : Value) : Prop :=
  ∃ front, (front ++ column, w) ∈ bag.entries ∨ (front ++ broadKey, w) ∈ bag.entries

/-- **Whether a bag holds nothing but scalars and lists of scalars.** -/
def Bag.IsFlat (bag : Bag) : Prop :=
  ∀ e ∈ bag.entries, ∀ v ∈ e.2.singles, v.isScalar = true

/-- What a bag gives, one that it comes from gives too. -/
theorem Bag.Offers.of_from {bag inner : Bag} {broadKey column : String} {w : Value}
    (hinner : inner.From bag)
    (h : (column, w) ∈ inner.entries ∨ (broadKey, w) ∈ inner.entries) :
    bag.Offers broadKey column w := by
  rcases h with hown | hbroad
  · obtain ⟨front, hbag⟩ := hinner _ _ hown
    exact ⟨front, Or.inl hbag⟩
  · obtain ⟨front, hbag⟩ := hinner _ _ hbroad
    exact ⟨front, Or.inr hbag⟩

/-! ### What a value becomes -/

/-- **How a comparison is made of the values that are given for its column.** No value
becomes the comparison with no value. Any other is compared for equality, alone or as one
of several alternatives, with a truth value stored as a number; or its text is made a
pattern. A word for a column that holds no text becomes nothing. -/
inductive Condition.MadeOf (given : String → Value → Prop) (stringLike : String → Bool) :
    Condition → Prop
  | isNull {column : String} {w : Value} (hgiven : given column w) (hsingle : .null ∈ w.singles) :
      MadeOf given stringLike (Condition.isNull column)
  | equal {column : String} {w v : Value} (hgiven : given column w) (hsingle : v ∈ w.singles)
      (hnull : v ≠ .null) (hword : v.isMisplacedWord (stringLike column) = false) :
      MadeOf given stringLike (Condition.equal column v.asStored)
  | like {column : String} {w v : Value} (hgiven : given column w) (hsingle : v ∈ w.singles)
      (hnull : v ≠ .null) (hbool : ∀ b, v ≠ .bool b)
      (hword : v.isMisplacedWord (stringLike column) = false)
      (hpattern : v.likePattern.isEmpty = false) :
      MadeOf given stringLike ⟨column, .like, .str v.likePattern⟩
  | oneOf {column : String} {items kept : List Value} (hgiven : given column (.list items))
      (hne : kept ≠ [])
      (hkept : ∀ v ∈ kept, v ∈ items ∧ v ≠ .null ∧ v.isMisplacedWord (stringLike column) = false) :
      MadeOf given stringLike ⟨column, .oneOf, .list (kept.map Value.asStored)⟩

section Leaves

variable {given : String → Value → Prop} {stringLike : String → Bool} {column : String}
  {w v : Value}

/-- The comparison of a single value. -/
theorem Condition.madeOf_of_make? {like : Bool} {c : Condition} (hgiven : given column w)
    (hsingle : v ∈ w.singles) (h : Condition.make? column v (stringLike column) like = some c) :
    c.MadeOf given stringLike := by
  unfold Condition.make? at h
  split at h
  next => cases h
  next hword =>
    have hword : v.isMisplacedWord (stringLike column) = false := by simpa using hword
    split at h
    next =>
      cases h
      exact .isNull hgiven hsingle
    next b =>
      cases h
      exact .equal hgiven hsingle (by simp) hword
    next hnull hbool =>
      split at h
      next =>
        -- A text without letters and numerals has no pattern.
        dsimp only at h
        split at h
        next => cases h
        next hpattern =>
          cases h
          exact .like hgiven hsingle hnull hbool hword (by simpa using hpattern)
      next =>
        cases h
        rw [← Value.asStored_of_ne_bool hbool]
        exact .equal hgiven hsingle hnull hword

/-- The patterns made of a list. -/
theorem Group.madeOf_of_mem_anyLike {items : List Value} {l : List Relation × Condition}
    (hgiven : given column (.list items))
    (h : l ∈ (Group.anyLike column items (stringLike column)).located) :
    l.2.MadeOf given stringLike := by
  rw [Group.anyLike, Group.located_of, Predicate.mem_locatedIn] at h
  obtain ⟨p, hp, hl⟩ := h
  obtain ⟨c, hc, rfl⟩ := List.mem_map.mp hp
  obtain ⟨v, hv, hmake⟩ := List.mem_filterMap.mp hc
  rw [List.mem_singleton.mp hl]
  exact Condition.madeOf_of_make? hgiven hv hmake

/-- The alternatives made of a list. -/
theorem Group.madeOf_of_mem_anyEqual {items : List Value} {l : List Relation × Condition}
    (hgiven : given column (.list items))
    (h : l ∈ (Group.anyEqual column items (stringLike column)).located) :
    l.2.MadeOf given stringLike := by
  rw [Group.anyEqual, Group.located_of, Predicate.mem_locatedIn] at h
  obtain ⟨p, hp, hl⟩ := h
  rcases List.mem_append.mp hp with hp | hp
  · split at hp
    next => exact absurd hp List.not_mem_nil
    next hkept =>
      rw [List.mem_singleton.mp hp] at hl
      rw [List.mem_singleton.mp hl]
      refine .oneOf hgiven ?_ fun v hv => ?_
      · intro hc
        rw [hc] at hkept
        exact hkept rfl
      · -- What is compared has passed two filters.
        obtain ⟨husable, hnull⟩ := List.mem_filter.mp hv
        obtain ⟨hitem, hword⟩ := List.mem_filter.mp husable
        refine ⟨hitem, ?_, by simpa using hword⟩
        rintro rfl
        cases hnull
  · split at hp
    next hnull =>
      rw [List.mem_singleton.mp hp] at hl
      rw [List.mem_singleton.mp hl]
      obtain ⟨v, husable, hv⟩ := List.any_eq_true.mp hnull
      refine .isNull hgiven ?_
      cases v with
      | null => exact (List.mem_filter.mp husable).1
      | _ => cases hv
    next => exact absurd hp List.not_mem_nil

theorem Predicate.madeOf_of_mem_option {like : Bool} {p : Predicate}
    {l : List Relation × Condition} (hgiven : given column w) (hsingle : v ∈ w.singles)
    (hp : p ∈ ((Condition.make? column v (stringLike column) like).map condition).toList)
    (hl : l ∈ p.located) : l.2.MadeOf given stringLike := by
  obtain ⟨c, hmake, rfl⟩ := Option.map_eq_some_iff.mp (Option.mem_toList.mp hp)
  rw [List.mem_singleton.mp hl]
  exact Condition.madeOf_of_make? hgiven hsingle hmake

/-- What is made of a value of a column that is compared loosely. -/
theorem Predicate.madeOf_of_mem_looseLeaf {p : Predicate} {l : List Relation × Condition}
    (hgiven : given column w) (hp : p ∈ looseLeaf column w (stringLike column))
    (hl : l ∈ p.located) : l.2.MadeOf given stringLike := by
  unfold looseLeaf at hp
  split at hp
  next =>
    rw [List.mem_singleton.mp hp] at hl
    exact Group.madeOf_of_mem_anyLike hgiven hl
  next hlist => exact madeOf_of_mem_option hgiven (Value.mem_singles_self hlist) hp hl

/-- What is made of a value of a column that is compared for equality. -/
theorem Predicate.madeOf_of_mem_exactLeaf {forceLike : Bool} {p : Predicate}
    {l : List Relation × Condition} (hgiven : given column w)
    (hp : p ∈ exactLeaf column w (stringLike column) forceLike) (hl : l ∈ p.located) :
    l.2.MadeOf given stringLike := by
  unfold exactLeaf at hp
  split at hp
  next =>
    rw [List.mem_singleton.mp hp] at hl
    split at hl
    next => exact Group.madeOf_of_mem_anyLike hgiven hl
    next => exact Group.madeOf_of_mem_anyEqual hgiven hl
  next hlist => exact madeOf_of_mem_option hgiven (Value.mem_singles_self hlist) hp hl

end Leaves

/-! ### The predicate of an entity's own columns -/

section Build

variable {table : Table} {columns likeKeys : List String} {params : Bag} {mode : BuildMode}

/-- **What a column is compared with** is its own parameter or the broad one. -/
theorem BuildMode.mem_valueFor {column : String}
    (hcolumn : mode.broad = false → column ∈ params.keys)
    (hfilled : mode.broad = true → params.filled mode.broadKey = true) :
    (column, mode.valueFor params column) ∈ params.entries ∨
      (mode.broadKey, mode.valueFor params column) ∈ params.entries := by
  cases hbroad : mode.broad with
  | false =>
    obtain ⟨v, hv⟩ := Bag.mem_keys.mp (hcolumn hbroad)
    rw [BuildMode.valueFor, hbroad, if_neg (by decide), Bag.get_of_mem hv]
    exact Or.inl hv
  | true =>
    rw [BuildMode.valueFor, hbroad, if_pos rfl]
    cases hown : params.get? column with
    | some v => exact Or.inl (Bag.mem_of_get? hown)
    | none =>
      -- A broad search has a parameter to look for, since this one is filled.
      have hpresent := hfilled hbroad
      rw [Bag.filled] at hpresent
      cases hvalue : params.get? mode.broadKey with
      | none =>
        rw [hvalue] at hpresent
        cases hpresent
      | some v =>
        rw [Option.getD_none, Bag.get, hvalue, Option.getD_some]
        exact Or.inr (Bag.mem_of_get? hvalue)

/-- Without a broad search only columns with parameters take part. -/
theorem mem_keys_of_partitionColumns {column : String}
    (h : column ∈ (partitionColumns columns likeKeys params false).1 ∨
      column ∈ (partitionColumns columns likeKeys params false).2) : column ∈ params.keys := by
  have hrequested : column ∈ params.keys.filter columns.contains :=
    h.elim (fun h => (List.mem_filter.mp h).1) fun h => (List.mem_filter.mp h).1
  exact (List.mem_filter.mp hrequested).1

/-- **The comparisons of an entity's own columns are made of its parameters.** -/
theorem madeOf_buildPredicate (hfilled : mode.broad = true → params.filled mode.broadKey = true)
    {given : String → Value → Prop}
    (hgiven : ∀ column w, (column, w) ∈ params.entries ∨ (mode.broadKey, w) ∈ params.entries →
      given column w)
    {l : List Relation × Condition}
    (hl : l ∈ (buildPredicate table columns likeKeys params mode).located) :
    l.2.MadeOf given table.isStringLike := by
  rw [Group.located, Predicate.locatedIn_eq_flatMap] at hl
  obtain ⟨p, hp, hl⟩ :=
    exists_requested_of_mem_flatMap (fun _ ms => Predicate.locatedIn_eq_flatMap ms) hl
  have hvalue : ∀ column, (column ∈ (partitionColumns columns likeKeys params mode.broad).1 ∨
      column ∈ (partitionColumns columns likeKeys params mode.broad).2) →
      given column (mode.valueFor params column) := by
    intro column hcolumn
    refine hgiven column _ (mode.mem_valueFor (fun hbroad => ?_) hfilled)
    rw [hbroad] at hcolumn
    exact mem_keys_of_partitionColumns hcolumn
  -- The two parts differ only in how a value is compared.
  rcases hp with hp | hp
  · obtain ⟨column, hcolumn, hp⟩ := List.mem_flatMap.mp hp
    exact Predicate.madeOf_of_mem_looseLeaf (hvalue column (Or.inl hcolumn)) hp hl
  · obtain ⟨column, hcolumn, hp⟩ := List.mem_flatMap.mp hp
    exact Predicate.madeOf_of_mem_exactLeaf (hvalue column (Or.inr hcolumn)) hp hl

end Build

/-! ### Searches -/

namespace Compiler

variable {c : Compiler} {catalog : Catalog} {bag : Bag}

/-- Whether a comparison is made of what a bag gives for its column, in the table of an
entity. -/
def MakesCondition (c : Compiler) (catalog : Catalog) (bag : Bag) (e : Entity)
    (condition : Condition) : Prop :=
  ∃ table, catalog.table e.table = .ok table ∧
    condition.MadeOf (bag.Offers c.settings.broadKey) table.isStringLike

theorem carriedFrom_madeOf (c : Compiler) (catalog : Catalog) (bag : Bag) :
    c.CarriedFrom catalog bag (c.registry.ComparesAs (c.MakesCondition catalog bag)) where
  empty e := Registry.ComparesAs.empty _ _ e
  own e table params mode htable hfrom hkey hfilled := by
    refine Registry.ComparesAs.own fun l hl => ⟨table, htable, ?_⟩
    refine madeOf_buildPredicate hfilled (fun column w hw => ?_) hl
    rw [hkey] at hw
    exact Bag.Offers.of_from hfrom hw
  joined _ hrelation hfound hbelow :=
    Registry.ComparesAs.joined (Registry.of_relation hrelation).2.2 hfound hbelow

/-- **Every comparison of a search is made of what its bag gives for its column**, in
whatever way the search is made and whatever the bag holds. -/
theorem MakesOf.madeOf {result : CompiledSearch} (h : c.MakesOf catalog bag result) :
    ∃ root, c.registry.find? result.entity = some root ∧ result.table = root.table ∧
      c.registry.ComparesAs (c.MakesCondition catalog bag) root result.predicate :=
  h.of_carriedFrom (carriedFrom_madeOf c catalog bag)

end Compiler

/-! ### Well-formed comparisons -/

/-- **Whether a value may be compared with a column for equality**: a number, or a text,
which has to be one of a number when the column holds no text. -/
def Value.FitsColumn (stringLike : Bool) : Value → Prop
  | .int _ => True
  | .float _ => True
  | .str s => stringLike = true ∨ isNumericText s = true
  | _ => False

/-- **Whether a comparison is well formed**, given the values that it may stem from. A
pattern consists of letters and numerals with a wildcard in front and after each of
them, and they are those of a value that the column could be compared with. -/
def Condition.WellFormed (given : Value → Prop) (stringLike : Bool) (c : Condition) : Prop :=
  match c.comparison with
  | .equal => c.value.FitsColumn stringLike
  | .oneOf => ∃ items, c.value = .list items ∧ items ≠ [] ∧ ∀ v ∈ items, v.FitsColumn stringLike
  | .like => ∃ w v kept, given w ∧ v ∈ w.singles ∧ v.FitsColumn stringLike ∧
      kept = v.shown.toList.filter Text.isAlphanumericChar ∧ kept ≠ [] ∧
      c.value = .str (String.ofList ('%' :: kept.flatMap fun ch => [ch, '%']))
  | .isNull => c.value = .null

/-- A scalar that is not missing, and no word for a column without texts, may be compared
in the form in which it is stored. -/
theorem Value.fitsColumn_asStored {v : Value} {stringLike : Bool} (hscalar : v.isScalar = true)
    (hnull : v ≠ .null) (hword : v.isMisplacedWord stringLike = false) :
    v.asStored.FitsColumn stringLike := by
  cases v with
  | null => exact absurd rfl hnull
  | bool b => trivial
  | int n => trivial
  | float x => trivial
  | str s =>
    show stringLike = true ∨ isNumericText s = true
    rw [isMisplacedWord] at hword
    cases stringLike with
    | true => exact Or.inl rfl
    | false => exact Or.inr (by simpa using hword)
  | _ => cases hscalar

/-- **The pattern of a text** that has one. -/
theorem Value.likePattern_eq {v : Value} (h : v.likePattern.isEmpty = false) :
    v.shown.toList.filter Text.isAlphanumericChar ≠ [] ∧
      v.likePattern = String.ofList
        ('%' :: (v.shown.toList.filter Text.isAlphanumericChar).flatMap fun ch => [ch, '%']) := by
  rw [likePattern, looseChars] at h ⊢
  split at h
  next => cases h
  next hkept =>
    refine ⟨fun hc => hkept ?_, ?_⟩
    · rw [hc]
      rfl
    · rw [if_neg hkept]

/-- **Whether a comparison is with a table as it stands**, or with a pattern made of its
text. -/
def Condition.ComparesTable (c : Condition) (entries : List (Value × Value)) : Prop :=
  c = Condition.equal c.column (.map entries) ∨
    c = ⟨c.column, .like, .str (Value.map entries).likePattern⟩

/-- **What is made of scalars is well formed**; a table that is given instead of them is
compared as if it were one. -/
theorem Condition.MadeOf.wellFormed_or {given : String → Value → Prop}
    {stringLike : String → Bool} {c : Condition} (h : c.MadeOf given stringLike)
    (hgiven : ∀ w, given c.column w →
      (∃ entries, w = .map entries) ∨ ∀ v ∈ w.singles, v.isScalar = true) :
    c.WellFormed (given c.column) (stringLike c.column) ∨
      ∃ entries, given c.column (.map entries) ∧ c.ComparesTable entries := by
  cases h with
  | isNull => exact Or.inl rfl
  | @equal column w v hw hsingle hnull hword =>
    rcases hgiven w hw with ⟨entries, rfl⟩ | hscalar
    · rw [List.mem_singleton.mp hsingle]
      exact Or.inr ⟨entries, hw, Or.inl rfl⟩
    · exact Or.inl (Value.fitsColumn_asStored (hscalar v hsingle) hnull hword)
  | @like column w v hw hsingle hnull hbool hword hpattern =>
    rcases hgiven w hw with ⟨entries, rfl⟩ | hscalar
    · rw [List.mem_singleton.mp hsingle]
      exact Or.inr ⟨entries, hw, Or.inr rfl⟩
    · -- A pattern is made of the value itself, and this is also what would be stored.
      have hfits := Value.fitsColumn_asStored (hscalar v hsingle) hnull hword
      rw [Value.asStored_of_ne_bool hbool] at hfits
      obtain ⟨hkept, heq⟩ := Value.likePattern_eq hpattern
      exact Or.inl ⟨w, v, _, hw, hsingle, hfits, rfl, hkept, congrArg Value.str heq⟩
  | @oneOf column items kept hw hne hkept =>
    rcases hgiven (.list items) hw with ⟨entries, hentries⟩ | hscalar
    · cases hentries
    · refine Or.inl ⟨_, rfl, fun hc => hne (List.map_eq_nil_iff.mp hc), fun v hv => ?_⟩
      obtain ⟨x, hx, rfl⟩ := List.mem_map.mp hv
      obtain ⟨hitem, hnull, hword⟩ := hkept x hx
      exact Value.fitsColumn_asStored (hscalar x hitem) hnull hword

/-- What a flat bag gives for a column is flat. -/
theorem Bag.IsFlat.of_offers {bag : Bag} (hflat : bag.IsFlat) {broadKey column : String}
    {w v : Value} (hw : bag.Offers broadKey column w) (hv : v ∈ w.singles) :
    v.isScalar = true := by
  obtain ⟨front, hentry | hentry⟩ := hw
  · exact hflat _ hentry v hv
  · exact hflat _ hentry v hv

/-- A broad search for a word, a number, no value and a truth value. -/
def Pond.mixed : Bag := Bag.single "q" (.list [.str "koi", .int 3, .null, .bool true])

namespace Compiler

variable {c : Compiler} {catalog : Catalog} {bag : Bag}

/-- **Every comparison of a search for scalars is well formed** in the table of the entity
that it is about, whether the search is made with all relations, by one relation or by
columns of one. -/
theorem MakesOf.wellFormed {result : CompiledSearch} (h : c.MakesOf catalog bag result)
    (hflat : bag.IsFlat) :
    ∃ root, c.registry.find? result.entity = some root ∧ result.table = root.table ∧
      ∀ l ∈ result.predicate.located, ∃ e table, c.registry.filtered? root l.1 = some e ∧
        catalog.table e.table = .ok table ∧
        l.2.WellFormed (bag.Offers c.settings.broadKey l.2.column)
          (table.isStringLike l.2.column) := by
  obtain ⟨root, hroot, htable, hmade⟩ := h.madeOf
  refine ⟨root, hroot, htable, fun l hl => ?_⟩
  obtain ⟨e, he, table, htable, hcondition⟩ := hmade l hl
  refine ⟨e, table, he, htable, ?_⟩
  rcases hcondition.wellFormed_or fun w hw => Or.inr fun v hv => hflat.of_offers hw hv with
    hwell | ⟨entries, hentries, -⟩
  · exact hwell
  · -- A flat bag gives no table.
    have hscalar := hflat.of_offers hentries (List.mem_singleton.mpr rfl)
    cases hscalar

/-- A broad search of a pond for several things at once, among them a word that its depth
is not compared with. -/
theorem MakesOf.wellFormed_pond :
    ∃ result, Pond.compiler.MakesOf Pond.catalog Pond.mixed result ∧ Pond.mixed.IsFlat ∧
      ∃ root, Pond.registry.find? result.entity = some root ∧ result.table = root.table ∧
        ∀ l ∈ result.predicate.located, ∃ e table, Pond.registry.filtered? root l.1 = some e ∧
          Pond.catalog.table e.table = .ok table ∧
          l.2.WellFormed (Pond.mixed.Offers "q" l.2.column) (table.isStringLike l.2.column) := by
  have hflat : Pond.mixed.IsFlat := by
    rw [Bag.IsFlat]
    decide
  obtain ⟨result, h⟩ := exists_of_toBool (x := Pond.compiler.compile Pond.catalog "Pond"
    (.value Pond.mixed.toMap) Pond.following Pond.clock) (by decide +kernel)
  have hmakes : Pond.compiler.MakesOf Pond.catalog Pond.mixed result := .compiled rfl h
  exact ⟨result, hmakes, hflat, hmakes.wellFormed hflat⟩

end Compiler

end RelationalSearch
