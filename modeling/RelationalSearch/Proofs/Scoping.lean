import Mathlib.Data.List.Nodup
import RelationalSearch.Search.Context

/-!
# What a scope keeps

A scope reads the keys with a name in front of them and drops the name. Without
the broad-search parameter this is a matter of single keys: the scope keeps a
parameter under `key` exactly when the bag has a parameter, not blank and not
excluded, under the name, an underscore and `key`
(`RelationalSearch.Scope.mem_entries_apply`), and as different keys stay
different, nothing is overwritten on the way.

With it two keys can fall together, and only where a key of the scope comes from
is said (`RelationalSearch.Scope.mem_keys_apply`). Every name costs a key an
underscore; the broad-search parameter is the only one that goes through for
nothing. In either case the values of a scope are values of the bag, under keys that
end in those of the scope (`RelationalSearch.Scope.from_apply`).
-/

namespace RelationalSearch

/-! ### Bags -/

namespace Bag

variable {b : Bag} {key k : String} {value v : Value}

/-- A new key goes last. -/
theorem putEntry_of_not_mem {entries : List (String × Value)} (h : key ∉ entries.map Prod.fst) :
    putEntry entries key value = entries ++ [(key, value)] := by
  induction entries with
  | nil => rfl
  | cons e rest ih =>
    rw [List.map_cons, List.mem_cons, not_or] at h
    rw [putEntry, if_neg (Ne.symm h.1), ih h.2, List.cons_append]

theorem mem_keys_put : k ∈ (b.put key value).keys ↔ k = key ∨ k ∈ b.keys := mem_keys_putEntry

theorem mem_keys : k ∈ b.keys ↔ ∃ v, (k, v) ∈ b.entries := by
  simp [keys]

theorem mem_keys_of_mem (h : (k, v) ∈ b.entries) : k ∈ b.keys := mem_keys.mpr ⟨v, h⟩

@[simp] theorem not_mem_keys_empty : k ∉ empty.keys := List.not_mem_nil

/-- Look-up in a list of entries with different keys finds each of them. -/
theorem lookup_of_mem {entries : List (String × Value)} (hnodup : (entries.map Prod.fst).Nodup)
    (h : (k, v) ∈ entries) : entries.lookup k = some v := by
  induction entries with
  | nil => exact absurd h List.not_mem_nil
  | cons e rest ih =>
    rw [List.map_cons, List.nodup_cons] at hnodup
    rcases List.mem_cons.mp h with rfl | h
    · exact List.lookup_cons_self
    · have hne : (k == e.1) = false := by
        refine beq_eq_false_iff_ne.mpr fun hc => hnodup.1 ?_
        rw [← hc]
        exact List.mem_map_of_mem h
      rw [List.lookup_cons, hne]
      exact ih hnodup.2 h

theorem mem_of_lookup {entries : List (String × Value)} (h : entries.lookup k = some v) :
    (k, v) ∈ entries := by
  obtain ⟨front, back, hentries, -⟩ := List.lookup_eq_some_iff.mp h
  rw [hentries]
  exact List.mem_append_right front List.mem_cons_self

theorem get?_of_mem (h : (k, v) ∈ b.entries) : b.get? k = some v := lookup_of_mem b.nodup h

theorem mem_of_get? (h : b.get? k = some v) : (k, v) ∈ b.entries := mem_of_lookup h

theorem get_of_mem (h : (k, v) ∈ b.entries) : b.get k = v := by
  rw [get, get?_of_mem h, Option.getD_some]

theorem lookup_of_not_mem {entries : List (String × Value)} (h : k ∉ entries.map Prod.fst) :
    entries.lookup k = none := by
  refine List.lookup_eq_none_iff.mpr fun e he => bne_iff_ne.mpr ?_
  rintro rfl
  exact h (List.mem_map_of_mem he)

theorem get?_of_not_mem (h : k ∉ b.keys) : b.get? k = none := lookup_of_not_mem h

theorem isEmpty_iff : b.isEmpty = true ↔ b.keys = [] := by
  simp [isEmpty, keys]

theorem isEmpty_eq_false (h : k ∈ b.keys) : b.isEmpty = false := by
  rw [Bool.eq_false_iff]
  intro hc
  rw [isEmpty_iff.mp hc] at h
  exact List.not_mem_nil h

theorem exists_mem_keys (h : b.isEmpty = false) : ∃ k, k ∈ b.keys := by
  refine List.exists_mem_of_ne_nil _ fun hc => ?_
  rw [isEmpty_iff.mpr hc] at h
  cases h

/-- The bag holds nothing but one key: it has that key and no other. -/
theorem only_singleton : b.only [key] = true ↔ key ∈ b.keys ∧ ∀ k ∈ b.keys, k = key := by
  simp only [only, Bool.and_eq_true, List.all_eq_true, List.contains_eq_mem, List.mem_singleton,
    decide_eq_true_eq, forall_eq]
  exact and_comm

/-- The bag of a single parameter. -/
def single (key : String) (value : Value) : Bag := empty.put key value

@[simp] theorem entries_single : (single key value).entries = [(key, value)] := rfl

theorem get?_single_of_ne (h : k ≠ key) : (single key value).get? k = none :=
  get?_of_not_mem fun hmem => h (List.mem_singleton.mp hmem)

theorem filled_single_of_ne (h : k ≠ key) : (single key value).filled k = false := by
  rw [filled, get?_single_of_ne h]

/-! ### Storing many entries under new keys -/

/-- A bag with entries added to it, each under the key that `g` gives it, if any. -/
def storeAll (b : Bag) (g : String → Option String) (entries : List (String × Value)) : Bag :=
  entries.foldl
    (fun result e => match g e.1 with | some key => result.put key e.2 | none => result) b

variable {g : String → Option String}

theorem mem_keys_storeAll {entries : List (String × Value)} :
    k ∈ (b.storeAll g entries).keys ↔ (∃ e ∈ entries, g e.1 = some k) ∨ k ∈ b.keys := by
  rw [storeAll]
  induction entries generalizing b with
  | nil => simp
  | cons e rest ih =>
    rw [List.foldl_cons, ih, List.exists_mem_cons_iff]
    cases hg : g e.1 with
    | none => simp
    | some key =>
      simp only [mem_keys_put, Option.some.injEq]
      rw [eq_comm (a := key), or_left_comm, or_assoc]

/-- What stands among entries after one has been stored is this one or stood there
before. -/
theorem mem_putEntry {entries : List (String × Value)} {e : String × Value}
    (h : e ∈ putEntry entries key value) : e = (key, value) ∨ e ∈ entries := by
  induction entries with
  | nil => exact Or.inl (List.mem_singleton.mp h)
  | cons first rest ih =>
    rw [putEntry] at h
    split at h
    · rcases List.mem_cons.mp h with rfl | hrest
      · exact Or.inl rfl
      · exact Or.inr (List.mem_cons_of_mem first hrest)
    · rcases List.mem_cons.mp h with rfl | hrest
      · exact Or.inr List.mem_cons_self
      · exact (ih hrest).imp_right (List.mem_cons_of_mem first)

theorem mem_entries_storeAll {entries : List (String × Value)}
    (h : (k, v) ∈ (b.storeAll g entries).entries) :
    (∃ key, (key, v) ∈ entries ∧ g key = some k) ∨ (k, v) ∈ b.entries := by
  rw [storeAll] at h
  induction entries generalizing b with
  | nil => exact Or.inr h
  | cons e rest ih =>
    rw [List.foldl_cons] at h
    rcases ih h with ⟨key, hkey, hg⟩ | hstored
    · exact Or.inl ⟨key, List.mem_cons_of_mem e hkey, hg⟩
    · -- The first entry was stored under its new key, or not at all.
      cases hge : g e.1 with
      | none =>
        rw [hge] at hstored
        exact Or.inr hstored
      | some key =>
        rw [hge] at hstored
        rcases mem_putEntry hstored with heq | hbefore
        · cases heq
          exact Or.inl ⟨e.1, List.mem_cons_self, hge⟩
        · exact Or.inr hbefore

/-- When `g` keeps the different keys of the entries different, no entry overwrites
another, and the new entries come after the old ones. -/
theorem entries_storeAll {entries : List (String × Value)}
    (hg : ∀ e₁ ∈ entries, ∀ e₂ ∈ entries, ∀ k, g e₁.1 = some k → g e₂.1 = some k → e₁.1 = e₂.1)
    (hnodup : (entries.map Prod.fst).Nodup)
    (hnew : ∀ e ∈ entries, ∀ k, g e.1 = some k → k ∉ b.keys) :
    (b.storeAll g entries).entries =
      b.entries ++ entries.filterMap fun e => (g e.1).map fun k => (k, e.2) := by
  rw [storeAll]
  induction entries generalizing b with
  | nil => exact (List.append_nil _).symm
  | cons e rest ih =>
    rw [List.map_cons, List.nodup_cons] at hnodup
    have hrest : ∀ e' ∈ rest, ∀ k, g e'.1 = some k → k ∉ b.keys := fun e' he' =>
      hnew e' (List.mem_cons_of_mem e he')
    have hg' := fun e₁ he₁ e₂ he₂ => hg e₁ (List.mem_cons_of_mem e he₁) e₂
      (List.mem_cons_of_mem e he₂)
    rw [List.foldl_cons, List.filterMap_cons]
    cases hge : g e.1 with
    | none => exact ih hg' hnodup.2 hrest
    | some key =>
      have hput : (b.put key e.2).entries = b.entries ++ [(key, e.2)] :=
        putEntry_of_not_mem (hnew e List.mem_cons_self key hge)
      -- The key of `e` is taken by `e` alone, so no later entry is stored under it.
      have hlater : ∀ e' ∈ rest, ∀ k, g e'.1 = some k → k ∉ (b.put key e.2).keys := by
        intro e' he' k hk hmem
        rcases mem_keys_put.mp hmem with rfl | hmem
        · refine hnodup.1 ?_
          rw [hg e List.mem_cons_self e' (List.mem_cons_of_mem e he') _ hge hk]
          exact List.mem_map_of_mem he'
        · exact hrest e' he' k hk hmem
      show (rest.foldl _ (b.put key e.2)).entries = b.entries ++ (key, e.2) :: _
      rw [ih hg' hnodup.2 hlater, hput, List.append_assoc]
      rfl

/-! ### Parameters out of a bag -/

/-- **Whether the parameters of a bag come from another one**: each of them is there,
perhaps with something in front of its key. -/
def From (inner bag : Bag) : Prop :=
  ∀ key v, (key, v) ∈ inner.entries → ∃ front, (front ++ key, v) ∈ bag.entries

theorem From.refl (bag : Bag) : bag.From bag := by
  intro key v hv
  refine ⟨"", ?_⟩
  rw [String.empty_append]
  exact hv

theorem From.trans {b₁ b₂ b₃ : Bag} (h : b₁.From b₂) (h' : b₂.From b₃) : b₁.From b₃ := by
  intro key v hv
  obtain ⟨front, hm⟩ := h key v hv
  obtain ⟨front', hm'⟩ := h' _ v hm
  refine ⟨front' ++ front, ?_⟩
  rw [String.append_assoc]
  exact hm'

end Bag

/-! ### Keys with a name in front -/

namespace Scope

/-- **The written form of a key**: the name of its scope, an underscore and the
key; in a scope without a name the key as it is. -/
def written (name key : String) : String := if name.isEmpty then key else name ++ "_" ++ key

/-- A key with a name in front holds an underscore. -/
theorem underscore_mem (name key : String) : '_' ∈ (name ++ "_" ++ key).toList := by
  rw [String.toList_append, String.toList_append]
  exact List.mem_append_left _ (List.mem_append_right _ (by decide))

variable {name broadKey key k : String} {ignoreBroad : Bool}

theorem rest?_eq_some_iff {start cs r : List Char} : rest? start cs = some r ↔ cs = start ++ r := by
  induction start generalizing cs with
  | nil => simp [rest?]
  | cons a start ih =>
    cases cs with
    | nil => simp [rest?]
    | cons c cs =>
      by_cases hac : a = c
      · simp [rest?, hac, ih]
      · simp [rest?, hac, Ne.symm hac]

theorem stripped?_eq_some_iff : stripped? name key = some k ↔ key = name ++ "_" ++ k := by
  have hchars : (name ++ "_" ++ k).toList = name.toList ++ ['_'] ++ k.toList := by
    rw [String.toList_append, String.toList_append]
    rfl
  rw [stripped?, Option.map_eq_some_iff]
  constructor
  · rintro ⟨r, hr, rfl⟩
    refine String.toList_injective ?_
    rw [hchars, rest?_eq_some_iff.mp hr, String.toList_ofList]
  · rintro rfl
    exact ⟨k.toList, rest?_eq_some_iff.mpr hchars, String.ofList_toList⟩

/-- In a scope with a name a key is kept without it, or it is the broad-search parameter. -/
theorem keyWithin?_named (hname : name ≠ "") :
    keyWithin? name ignoreBroad broadKey key =
      match stripped? name key with
      | some rest => if (ignoreBroad && rest == broadKey) || rest.isEmpty then none else some rest
      | none => if !ignoreBroad && key == broadKey then some key else none := by
  have hnamed : ¬name.isEmpty = true := by simpa using hname
  cases hstrip : stripped? name key with
  | none => rw [keyWithin?, if_neg hnamed, hstrip]
  | some rest => rw [keyWithin?, if_neg hnamed, hstrip]

/-- The key that a scope without the broad-search parameter keeps a parameter
under. -/
theorem keyWithin?_ignoring :
    keyWithin? name true broadKey key = some k ↔
      key = written name k ∧ k ≠ broadKey ∧ k ≠ "" := by
  have hkept : ∀ s : String,
      (if (true && s == broadKey) || s.isEmpty then none else some s) = some k ↔
        s = k ∧ k ≠ broadKey ∧ k ≠ "" := by
    intro s
    by_cases hs : s = broadKey ∨ s = ""
    · have hif : ((true && s == broadKey) || s.isEmpty) = true := by simpa using hs
      rw [if_pos hif]
      refine ⟨fun h => absurd h (by simp), ?_⟩
      rintro ⟨rfl, h1, h2⟩
      exact absurd hs (by simp [h1, h2])
    · have hif : ¬((true && s == broadKey) || s.isEmpty) = true := by simpa using hs
      rw [if_neg hif, Option.some.injEq]
      refine ⟨?_, And.left⟩
      rintro rfl
      exact ⟨rfl, fun h => hs (Or.inl h), fun h => hs (Or.inr h)⟩
  by_cases hname : name.isEmpty = true
  · simp only [keyWithin?, written, if_pos hname]
    exact hkept key
  · simp only [keyWithin?, written, if_neg hname]
    cases hstrip : stripped? name key with
    | none =>
      have hne : key ≠ name ++ "_" ++ k := fun hc => by
        rw [stripped?_eq_some_iff.mpr hc] at hstrip
        cases hstrip
      simp [hne]
    | some s =>
      rw [stripped?_eq_some_iff] at hstrip
      refine (hkept s).trans (and_congr_left fun _ => ?_)
      rw [hstrip]
      refine ⟨fun h => h ▸ rfl, fun h => ?_⟩
      have hboth : stripped? name (name ++ "_" ++ s) = some k := stripped?_eq_some_iff.mpr h
      rw [stripped?_eq_some_iff.mpr rfl] at hboth
      exact Option.some.inj hboth

/-- Where a key of a scope comes from: it has lost the scope's name, or it is the
broad-search parameter, which goes through. -/
theorem keyWithin?_source (h : keyWithin? name ignoreBroad broadKey key = some k) :
    (key = written name k ∧ (ignoreBroad = true → k ≠ broadKey)) ∨
      (ignoreBroad = false ∧ key = broadKey ∧ k = broadKey) := by
  cases ignoreBroad with
  | true =>
    obtain ⟨hkey, hk, -⟩ := keyWithin?_ignoring.mp h
    exact Or.inl ⟨hkey, fun _ => hk⟩
  | false =>
    rw [keyWithin?] at h
    split at h
    next s hs =>
      have hs' : key = written name s := by
        rw [written]
        split at hs
        next hname => rw [if_pos hname]; exact Option.some.inj hs
        next hname => rw [if_neg hname]; exact stripped?_eq_some_iff.mp hs
      split at h
      · cases h
      · cases h
        exact Or.inl ⟨hs', fun hc => absurd hc (by decide)⟩
    next =>
      split at h
      next hkey =>
        cases h
        have hkey' : key = broadKey := by simpa using hkey
        exact Or.inr ⟨rfl, hkey', hkey'⟩
      · cases h

/-! ### The parameters of a scope -/

variable {scope : Scope} {bag : Bag} {v : Value}

theorem mem_entries_kept {excluded : List String} :
    (k, v) ∈ ((bag.without excluded).nonBlank).entries ↔
      (k, v) ∈ bag.entries ∧ k ∉ excluded ∧ v.isBlank = false := by
  simp only [Bag.nonBlank, Bag.without, Bag.filter, List.mem_filter, Bool.not_eq_eq_eq_not,
    Bool.not_true, List.contains_eq_mem, decide_eq_false_iff_not, and_assoc]

theorem apply_eq_storeAll (h : ¬((Text.trim scope.name).isEmpty && !scope.ignoreBroad) = true) :
    scope.apply bag =
      Bag.empty.storeAll (keyWithin? (Text.trim scope.name) scope.ignoreBroad scope.broadKey)
        ((bag.without scope.excluded).nonBlank).entries := by
  rw [apply, if_neg h]
  refine congrArg (fun f => List.foldl f _ _) (funext fun result => funext fun e => ?_)
  cases keyWithin? (Text.trim scope.name) scope.ignoreBroad scope.broadKey e.1 with
  | none => rfl
  | some key => rfl

/-- **The parameters of a scope without the broad-search parameter**: those of
the bag under the written form of their keys, as far as they are not excluded and
not blank. -/
theorem mem_entries_apply (hignore : scope.ignoreBroad = true) :
    (k, v) ∈ (scope.apply bag).entries ↔
      (written (Text.trim scope.name) k, v) ∈ bag.entries ∧
        written (Text.trim scope.name) k ∉ scope.excluded ∧ v.isBlank = false ∧
          k ≠ scope.broadKey ∧ k ≠ "" := by
  have hif : ¬((Text.trim scope.name).isEmpty && !scope.ignoreBroad) = true := by simp [hignore]
  have hinj : ∀ e₁ ∈ ((bag.without scope.excluded).nonBlank).entries,
      ∀ e₂ ∈ ((bag.without scope.excluded).nonBlank).entries, ∀ k,
        keyWithin? (Text.trim scope.name) scope.ignoreBroad scope.broadKey e₁.1 = some k →
        keyWithin? (Text.trim scope.name) scope.ignoreBroad scope.broadKey e₂.1 = some k →
        e₁.1 = e₂.1 := by
    intro e₁ _ e₂ _ k h₁ h₂
    rw [hignore] at h₁ h₂
    rw [(keyWithin?_ignoring.mp h₁).1, (keyWithin?_ignoring.mp h₂).1]
  have hnew : ∀ e ∈ ((bag.without scope.excluded).nonBlank).entries, ∀ k,
      keyWithin? (Text.trim scope.name) scope.ignoreBroad scope.broadKey e.1 = some k →
      k ∉ Bag.empty.keys := fun _ _ _ _ => Bag.not_mem_keys_empty
  rw [apply_eq_storeAll hif,
    Bag.entries_storeAll hinj ((bag.without scope.excluded).nonBlank).nodup hnew]
  show (k, v) ∈ List.filterMap _ _ ↔ _
  rw [List.mem_filterMap, hignore]
  constructor
  · rintro ⟨⟨key, value⟩, hm, hpair⟩
    obtain ⟨k', hk, hpair⟩ := Option.map_eq_some_iff.mp hpair
    cases hpair
    obtain ⟨rfl, hbroad, hempty⟩ := keyWithin?_ignoring.mp hk
    obtain ⟨hbag, hex, hblank⟩ := mem_entries_kept.mp hm
    exact ⟨hbag, hex, hblank, hbroad, hempty⟩
  · rintro ⟨hbag, hex, hblank, hbroad, hempty⟩
    refine ⟨(written (Text.trim scope.name) k, v), mem_entries_kept.mpr ⟨hbag, hex, hblank⟩, ?_⟩
    rw [keyWithin?_ignoring.mpr ⟨rfl, hbroad, hempty⟩]
    rfl

/-- **A parameter that is written for a scope is kept by it**, unless it is excluded or
blank, has no key left, or is the broad-search parameter. -/
theorem mem_keys_apply_of_written (hm : (written (Text.trim scope.name) k, v) ∈ bag.entries)
    (hexcluded : written (Text.trim scope.name) k ∉ scope.excluded) (hblank : v.isBlank = false)
    (hbroad : k ≠ scope.broadKey) (hempty : k ≠ "") : k ∈ (scope.apply bag).keys := by
  have hkept := mem_entries_kept.mpr ⟨hm, hexcluded, hblank⟩
  by_cases hif : ((Text.trim scope.name).isEmpty && !scope.ignoreBroad) = true
  · rw [written, if_pos (Bool.and_eq_true_iff.mp hif).1] at hkept
    rw [apply, if_pos hif]
    exact Bag.mem_keys_of_mem hkept
  · rw [apply_eq_storeAll hif]
    refine Bag.mem_keys_storeAll.mpr (Or.inl ⟨_, hkept, ?_⟩)
    dsimp only
    generalize Text.trim scope.name = name at hif ⊢
    cases hignore : scope.ignoreBroad with
    | true => exact keyWithin?_ignoring.mpr ⟨rfl, hbroad, hempty⟩
    | false =>
      -- The scope has a name, which stands in front of the key.
      have hname : name ≠ "" := by simpa [hignore] using hif
      have hwritten : written name k = name ++ "_" ++ k := if_neg (by simpa using hname)
      rw [keyWithin?_named hname, hwritten, stripped?_eq_some_iff.mpr rfl]
      simp [hempty]

/-- **What a scope keeps of a bag in which no two parameters become one**: each parameter
under its key in the scope, in the order of the bag. -/
theorem entries_apply_of_apart {scope : Scope}
    (hbag : written (Text.trim scope.name) scope.broadKey ∈ bag.keys →
      written (Text.trim scope.name) scope.broadKey = scope.broadKey)
    (hif : ¬((Text.trim scope.name).isEmpty && !scope.ignoreBroad) = true) :
    (scope.apply bag).entries =
      ((bag.without scope.excluded).nonBlank).entries.filterMap fun e =>
        (keyWithin? (Text.trim scope.name) scope.ignoreBroad scope.broadKey e.1).map
          fun key => (key, e.2) := by
  have hspares : ∀ e ∈ ((bag.without scope.excluded).nonBlank).entries,
      e.1 = written (Text.trim scope.name) scope.broadKey → e.1 = scope.broadKey := by
    rintro ⟨key, value⟩ he hkey
    have hmem : key ∈ bag.keys := Bag.mem_keys_of_mem (mem_entries_kept.mp he).1
    exact hkey.trans (hbag (hkey ▸ hmem))
  rw [apply_eq_storeAll hif, Bag.entries_storeAll ?_ (Bag.nodup _) fun _ _ _ _ =>
    Bag.not_mem_keys_empty]
  · rfl
  · -- Two keys become one if they are written alike or if this one is the broad-search key.
    intro e₁ he₁ e₂ he₂ k h₁ h₂
    rcases keyWithin?_source h₁ with ⟨hkey₁, -⟩ | ⟨-, hkey₁, rfl⟩
    · rcases keyWithin?_source h₂ with ⟨hkey₂, -⟩ | ⟨-, hkey₂, rfl⟩
      · rw [hkey₁, hkey₂]
      · rw [hspares e₁ he₁ hkey₁, hkey₂]
    · rcases keyWithin?_source h₂ with ⟨hkey₂, -⟩ | ⟨-, hkey₂, -⟩
      · rw [hspares e₂ he₂ hkey₂, hkey₁]
      · rw [hkey₁, hkey₂]

/-- What a scope keeps is not blank. -/
theorem isBlank_of_mem_apply {scope : Scope} {e : String × Value}
    (he : e ∈ (scope.apply bag).entries) : e.2.isBlank = false := by
  by_cases hif : ((Text.trim scope.name).isEmpty && !scope.ignoreBroad) = true
  · rw [apply, if_pos hif] at he
    exact (mem_entries_kept.mp he).2.2
  · rw [apply_eq_storeAll hif] at he
    rcases Bag.mem_entries_storeAll he with ⟨key, hkey, -⟩ | hnone
    · exact (mem_entries_kept.mp hkey).2.2
    · exact absurd hnone List.not_mem_nil

/-- A single parameter is looked at if it is neither excluded nor blank. -/
theorem kept_single {excluded : List String} (hexcluded : key ∉ excluded)
    (hblank : v.isBlank = false) :
    ((Bag.single key v).without excluded).nonBlank = Bag.single key v := by
  refine Bag.ext ?_
  simp [Bag.nonBlank, Bag.without, Bag.filter, hexcluded, hblank]

/-- **The broad-search parameter alone goes through a scope as it is**, unless it is
written like a key of the scope. -/
theorem apply_single {v : Value} (hignore : scope.ignoreBroad = false)
    (hexcluded : scope.broadKey ∉ scope.excluded) (hblank : v.isBlank = false)
    (hname : Text.trim scope.name ≠ "" →
      ∀ key, scope.broadKey ≠ Text.trim scope.name ++ "_" ++ key) :
    scope.apply (Bag.single scope.broadKey v) = Bag.single scope.broadKey v := by
  rw [apply, kept_single hexcluded hblank]
  split
  next => rfl
  next hnamed =>
    have hnonempty : ¬(Text.trim scope.name).isEmpty = true := by simpa [hignore] using hnamed
    have hstripped : stripped? (Text.trim scope.name) scope.broadKey = none := by
      refine Option.eq_none_iff_forall_ne_some.mpr fun key hkey => ?_
      exact hname (by simpa using hnonempty) key (stripped?_eq_some_iff.mp hkey)
    have hkey : keyWithin? (Text.trim scope.name) scope.ignoreBroad scope.broadKey scope.broadKey =
        some scope.broadKey := by
      simp only [keyWithin?, if_neg hnonempty, hstripped, hignore]
      simp
    simp only [Bag.entries_single, List.foldl_cons, List.foldl_nil, hkey]
    rfl

/-- **Where the parameters of a scope come from**: the bag has the same value, under
the written form of the key or under the key itself. -/
theorem exists_of_mem_apply (h : (k, v) ∈ (scope.apply bag).entries) :
    ∃ key, (key, v) ∈ bag.entries ∧ (key = written (Text.trim scope.name) k ∨ key = k) := by
  by_cases hif : ((Text.trim scope.name).isEmpty && !scope.ignoreBroad) = true
  · rw [apply, if_pos hif] at h
    exact ⟨k, (mem_entries_kept.mp h).1, Or.inr rfl⟩
  · rw [apply_eq_storeAll hif] at h
    rcases Bag.mem_entries_storeAll h with ⟨key, hm, hk⟩ | hnone
    · refine ⟨key, (mem_entries_kept.mp hm).1, ?_⟩
      rcases keyWithin?_source hk with ⟨hwritten, -⟩ | ⟨-, rfl, rfl⟩
      · exact Or.inl hwritten
      · exact Or.inr rfl
    · exact absurd hnone List.not_mem_nil

/-- **A scope takes its parameters from the bag.** -/
theorem from_apply (scope : Scope) (bag : Bag) : (scope.apply bag).From bag := by
  intro key v hv
  obtain ⟨key', hm, hkey⟩ := exists_of_mem_apply hv
  have hsame : (key, v) ∈ bag.entries → ∃ front, (front ++ key, v) ∈ bag.entries :=
    Bag.From.refl bag key v
  rcases hkey with hwritten | hkey
  · rw [hwritten, written] at hm
    split at hm
    · exact hsame hm
    · exact ⟨_, hm⟩
  · rw [hkey] at hm
    exact hsame hm

/-- Where the keys of a scope come from. -/
theorem mem_keys_apply (h : k ∈ (scope.apply bag).keys) :
    (written (Text.trim scope.name) k ∈ bag.keys ∧
        (scope.ignoreBroad = true → k ≠ scope.broadKey)) ∨
      (scope.ignoreBroad = false ∧ k = scope.broadKey ∧ k ∈ bag.keys) := by
  by_cases hif : ((Text.trim scope.name).isEmpty && !scope.ignoreBroad) = true
  · rw [apply, if_pos hif] at h
    obtain ⟨hname, hbroad⟩ : (Text.trim scope.name).isEmpty = true ∧ scope.ignoreBroad = false := by
      simpa using hif
    obtain ⟨v, hv⟩ := Bag.mem_keys.mp h
    refine Or.inl ⟨?_, fun hc => absurd (hbroad.symm.trans hc) (by decide)⟩
    rw [written, if_pos hname]
    exact Bag.mem_keys_of_mem (mem_entries_kept.mp hv).1
  · rw [apply_eq_storeAll hif] at h
    rcases Bag.mem_keys_storeAll.mp h with ⟨⟨key, v⟩, hm, hk⟩ | hm
    · have hkey : key ∈ bag.keys := Bag.mem_keys_of_mem (mem_entries_kept.mp hm).1
      rcases keyWithin?_source hk with ⟨rfl, hbroad⟩ | ⟨hignore, rfl, rfl⟩
      · exact Or.inl ⟨hkey, hbroad⟩
      · exact Or.inr ⟨hignore, rfl, hkey⟩
    · exact absurd hm List.not_mem_nil

end Scope

end RelationalSearch
