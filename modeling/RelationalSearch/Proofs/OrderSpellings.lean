import RelationalSearch.Proofs.Arrival
import RelationalSearch.Proofs.NestedScopes
import RelationalSearch.Proofs.QueryValues
import RelationalSearch.Sort

/-!
# The spellings of an order

An order can be asked for in several ways (`RelationalSearch.SortKey.WritesOrder`): by a
table from columns to directions, by a list of tables with one entry each, by a list of
pairs, by the columns alone when all are ascending, and by a parameter of its own when all
have one direction. A value is first brought into the form that it has inside a bag, where
lists of both kinds are one and bags have become tables; then its entries are read one by
one.

The main statement is `RelationalSearch.SortKey.resolve_spelled`: all spellings of an order
give the columns asked for, in the order in which they are asked for, as far as the table
has them. The entries of a list are read apart from each other, so the order of two lists
one after the other is that of the first and then that of the second.
-/

namespace RelationalSearch

/-! ### Letters of ASCII -/

namespace Text

theorem toLower_of_not_ascii {c : Char} (h : 128 ≤ c.toNat) : c.toLower = c := by
  refine dif_neg ?_
  rintro ⟨-, hle⟩
  have hle : c.toNat ≤ 90 := hle
  omega

theorem isAscii_of_toLower {c : Char} (h : c.toLower.toNat < 128) : c.toNat < 128 := by
  by_contra hc
  rw [toLower_of_not_ascii (by omega)] at h
  exact hc h

/-- The small form of an ASCII letter is the same everywhere. -/
theorem folds_of_ascii {c : Char} (h : c.toNat < 128) :
    smallForm c = [c.toLower] ∧ Word.foldLetter c = c.toLower ∧
      isBlankChar c.toLower = isBlankChar c := by
  have hall : ∀ n < 128, smallForm (Char.ofNat n) = [(Char.ofNat n).toLower] ∧
      Word.foldLetter (Char.ofNat n) = (Char.ofNat n).toLower ∧
      isBlankChar (Char.ofNat n).toLower = isBlankChar (Char.ofNat n) := by
    decide +kernel
  have hc := hall c.toNat h
  rwa [Char.ofNat_toNat] at hc

theorem toSmallChars_of_ascii {cs : List Char} (h : ∀ c ∈ cs, c.toNat < 128)
    (before : List Char) : toSmallChars before cs = cs.map Char.toLower := by
  induction cs generalizing before with
  | nil => rfl
  | cons c rest ih =>
    have hc := h c List.mem_cons_self
    have hsigma : ¬(c.toNat == 0x3A3) = true := by
      rw [beq_iff_eq]
      omega
    rw [toSmallChars, if_neg hsigma, (folds_of_ascii hc).1,
      ih fun x hx => h x (List.mem_cons_of_mem _ hx)]
    rfl

/-- White space around a word is trimmed. -/
theorem trimChars_surrounded {before word after : List Char}
    (hbefore : ∀ c ∈ before, isBlankChar c = true) (hafter : ∀ c ∈ after, isBlankChar c = true)
    (hword : ∀ c ∈ word, isBlankChar c = false) (hne : word ≠ []) :
    trimChars (before ++ word ++ after) = word := by
  have hself : ∀ cs : List Char, (∀ c ∈ cs, isBlankChar c = false) →
      cs.dropWhile isBlankChar = cs := by
    intro cs hcs
    refine List.dropWhile_eq_self_iff.mpr fun hlength => ?_
    rw [hcs _ (List.getElem_mem hlength)]
    decide
  have hback : word.reverse.dropWhile isBlankChar = word.reverse :=
    hself _ fun c hc => hword c (List.mem_reverse.mp hc)
  rw [trimChars, List.append_assoc, List.dropWhile_append_of_pos hbefore,
    dropWhile_append_of_self hne (hself _ hword), List.reverse_append,
    List.dropWhile_append_of_pos fun c hc => hafter c (List.mem_reverse.mp hc), hback,
    List.reverse_reverse]

end Text

namespace SortKey

/-! ### Directions -/

/-- The word for a direction. -/
def directionWord (descending : Bool) : List Char := (if descending then "desc" else "asc").toList

/-- **How a direction is written**: its word in any case, with white space around it. -/
def WritesDirection (descending : Bool) (s : String) : Prop :=
  ∃ before word after, s.toList = before ++ word ++ after ∧
    before.all Text.isBlankChar = true ∧ after.all Text.isBlankChar = true ∧
    word.map Char.toLower = directionWord descending

/-- However a direction is written, it is read. -/
theorem direction?_of_writes {descending : Bool} {s : String} (h : WritesDirection descending s) :
    direction? s = some descending := by
  obtain ⟨before, word, after, hs, hbefore, hafter, hword⟩ := h
  have hplain : ∀ c ∈ directionWord descending,
      c.toNat < 128 ∧ Text.isBlankChar c = false := by
    intro c hc
    have hall : (directionWord descending).all
        (fun c => decide (c.toNat < 128) && !Text.isBlankChar c) = true := by
      cases descending <;> decide
    simpa using List.all_eq_true.mp hall c hc
  have hletter : ∀ c ∈ word, c.toLower ∈ directionWord descending :=
    fun c hc => hword ▸ List.mem_map_of_mem hc
  have hascii : ∀ c ∈ word, c.toNat < 128 :=
    fun c hc => Text.isAscii_of_toLower (hplain _ (hletter c hc)).1
  have hfilled : ∀ c ∈ word, Text.isBlankChar c = false := fun c hc => by
    rw [← (Text.folds_of_ascii (hascii c hc)).2.2]
    exact (hplain _ (hletter c hc)).2
  have hne : word ≠ [] := by
    rintro rfl
    cases descending <;> cases hword
  have htrim : (Text.trim s).toList = word := by
    rw [Text.trim, String.toList_ofList, hs, Text.trimChars_surrounded
      (List.all_eq_true.mp hbefore) (List.all_eq_true.mp hafter) hfilled hne]
  have hfold : (Text.trim s).toList.map Word.foldLetter = directionWord descending := by
    rw [htrim, ← hword]
    exact List.map_congr_left fun c hc => (Text.folds_of_ascii (hascii c hc)).2.1
  have hsmall : Text.toSmall (Text.trim s) = String.ofList (directionWord descending) := by
    rw [Text.toSmall, htrim, Text.toSmallChars_of_ascii hascii, hword]
  rw [direction?, hfold, hsmall]
  cases descending <;> rfl

/-! ### Entries -/

/-- **How an entry of a list asks for a column in a direction**: as a table or a bag with one
entry, as a pair of either kind, or, ascending, by the column alone. -/
inductive WritesEntry (r : String × Bool) : Value → Prop
  /-- A table with one entry. -/
  | table {d : String} (h : WritesDirection r.2 d) : WritesEntry r (.map [(.str r.1, .str d)])
  /-- A bag with one parameter. -/
  | bag {d : String} (h : WritesDirection r.2 d) : WritesEntry r (.bag [(r.1, .str d)])
  /-- A pair. -/
  | pair {d : String} (h : WritesDirection r.2 d) : WritesEntry r (.list [.str r.1, .str d])
  /-- A pair that cannot grow. -/
  | fixedPair {d : String} (h : WritesDirection r.2 d) :
      WritesEntry r (.tuple [.str r.1, .str d])
  /-- A column alone. -/
  | column (h : r.2 = false) : WritesEntry r (.str r.1)

/-- What an entry asks for. -/
def read (entry : Value) : Option (String × Bool) := (ofEntry entry).value

theorem value_ofPair {r : String × Bool} {d : String} (h : WritesDirection r.2 d) :
    (ofPair (.str r.1) (.str d)).value = some r := by
  rw [ofPair, direction?_of_writes h]

theorem read_table (column direction : Value) :
    read (.map [(column, direction)]) = (ofPair column direction).value := rfl

theorem read_pair (column direction : Value) :
    read (.list [column, direction]) = (ofPair column direction).value := rfl

theorem WritesEntry.read_of_table {r : String × Bool} {e : Value × Value}
    (h : WritesEntry r (.map [e])) : read (.map [e]) = some r := by
  cases h with
  | table h => rw [read_table, value_ofPair h]

theorem WritesEntry.read_of_bag {r : String × Bool} {e : String × Value}
    (h : WritesEntry r (.bag [e])) : read (.map [(.str e.1, e.2)]) = some r := by
  cases h with
  | bag h => rw [read_table, value_ofPair h]

/-- An entry can enter a bag, and there it is read. -/
theorem WritesEntry.enters {r : String × Bool} {entry : Value} (h : WritesEntry r entry)
    (key : String) : ∃ form, entry.cleaned key = .ok form ∧ read form = some r := by
  cases h with
  | @table d h =>
    refine ⟨.map [(.str r.1, .str d)], by rw [Value.cleaned], ?_⟩
    rw [read_table, value_ofPair h]
  | @bag d h =>
    refine ⟨.map [(.str r.1, .str d)], by rw [Value.cleaned]; rfl, ?_⟩
    rw [read_table, value_ofPair h]
  | @pair d h =>
    refine ⟨.list [.str r.1, .str d], ?_, ?_⟩
    · simp only [Value.cleaned, Value.cleanedItems, Except.map]
    · rw [read_pair, value_ofPair h]
  | @fixedPair d h =>
    refine ⟨.list [.str r.1, .str d], ?_, ?_⟩
    · simp only [Value.cleaned, Value.cleanedItems, Except.map]
    · rw [read_pair, value_ofPair h]
  | column h =>
    refine ⟨.str r.1, by rw [Value.cleaned], ?_⟩
    rw [read, ofEntry, ← h]

/-- **How a value asks for an order**: as a table from columns to directions, as a bag, as a
list of entries of either kind, or, for one column, ascending, by a name that is not blank. -/
inductive WritesOrder (asked : List (String × Bool)) : Value → Prop
  /-- A table. -/
  | table {entries : List (Value × Value)}
      (h : List.Forall₂ (fun r e => WritesEntry r (.map [e])) asked entries) :
      WritesOrder asked (.map entries)
  /-- A bag. -/
  | bag {entries : List (String × Value)}
      (h : List.Forall₂ (fun r e => WritesEntry r (.bag [e])) asked entries) :
      WritesOrder asked (.bag entries)
  /-- A list of either kind. -/
  | items {v : Value} {items : List Value} (hv : v.items? = some items)
      (h : List.Forall₂ WritesEntry asked items) : WritesOrder asked v
  /-- One name. -/
  | name {column : String} (hblank : Text.isBlank column = false)
      (h : asked = [(column, false)]) : WritesOrder asked (.str column)

/-- **How a value names columns**: by a list of either kind, or one column by its name, if
it is not blank. -/
inductive WritesNames (names : List String) : Value → Prop
  /-- A list of either kind. -/
  | items {v : Value} (hv : v.items? = some (names.map .str)) : WritesNames names v
  /-- One name. -/
  | name {column : String} (hblank : Text.isBlank column = false) (h : names = [column]) :
      WritesNames names (.str column)

/-! ### Reading what is written -/

/-- Entries that are read one by one ask for what they are read as. -/
theorem filterMap_read {asked : List (String × Bool)} {forms : List Value}
    (h : List.Forall₂ (fun r form => read form = some r) asked forms) :
    forms.filterMap read = asked := by
  induction h with
  | nil => rfl
  | cons hread _ ih => rw [List.filterMap_cons_some hread, ih]

/-- The entries of a list can enter a bag, and there they are read. -/
theorem exists_cleanedItems {asked : List (String × Bool)} {items : List Value}
    (h : List.Forall₂ WritesEntry asked items) (key : String) :
    ∃ forms, Value.cleanedItems key items = .ok forms ∧ forms.filterMap read = asked := by
  induction h with
  | nil => exact ⟨[], rfl, rfl⟩
  | cons hentry _ ih =>
    obtain ⟨form, hform, hread⟩ := hentry.enters key
    obtain ⟨forms, hforms, hreads⟩ := ih
    refine ⟨form :: forms, ?_, ?_⟩
    · rw [Value.cleanedItems, hform, hforms]
      rfl
    · rw [List.filterMap_cons_some hread, hreads]

/-- What the entries of a value ask for. -/
def readAll (v : Value) : List (String × Bool) := (entriesOf v).filterMap read

/-- A table asks for what its entries ask for, each as a table of its own. -/
theorem readAll_map {asked : List (String × Bool)} {entries : List (Value × Value)}
    (h : List.Forall₂ (fun r e => read (.map [e]) = some r) asked entries) :
    readAll (.map entries) = asked :=
  filterMap_read (List.forall₂_map_right_iff.mpr h)

theorem readAll_list (items : List Value) : readAll (.list items) = items.filterMap read := rfl

/-- A list or a table that asks for something is filled. -/
theorem isFilled_of_readAll {items : List Value} (h : readAll (.list items) ≠ []) :
    (Value.list items).isFilled = true := by
  cases items with
  | nil => exact absurd rfl h
  | cons _ _ => rfl

theorem isFilled_of_readAll_map {entries : List (Value × Value)} (h : readAll (.map entries) ≠ []) :
    (Value.map entries).isFilled = true := by
  cases entries with
  | nil => exact absurd rfl h
  | cons _ _ => rfl

theorem isFilled_str (s : String) : (Value.str s).isFilled = !Text.isBlank s := rfl

/-- A list of either kind enters a bag with its items. -/
theorem cleaned_of_items {v : Value} {items : List Value} (h : v.items? = some items)
    (key : String) : v.cleaned key = (Value.cleanedItems key items).map .list := by
  cases v with
  | list items' =>
    cases h
    rw [Value.cleaned]
  | tuple items' =>
    cases h
    rw [Value.cleaned]
  | _ => cases h

/-- **However an order is written, it can enter a bag**, and there it is read. -/
theorem WritesOrder.enters {asked : List (String × Bool)} {raw : Value} (h : WritesOrder asked raw)
    (hasked : asked ≠ []) (key : String) :
    ∃ form, raw.cleaned key = .ok form ∧ form.isFilled = true ∧ readAll form = asked := by
  cases h with
  | @table entries h =>
    have hread : readAll (.map entries) = asked :=
      readAll_map (h.imp fun _ _ he => he.read_of_table)
    exact ⟨.map entries, by rw [Value.cleaned], isFilled_of_readAll_map (hread ▸ hasked), hread⟩
  | @bag entries h =>
    have hread : readAll (.map (Value.namedEntries entries)) = asked :=
      readAll_map (List.forall₂_map_right_iff.mpr (h.imp fun _ _ he => he.read_of_bag))
    exact ⟨.map (Value.namedEntries entries), by rw [Value.cleaned],
      isFilled_of_readAll_map (hread ▸ hasked), hread⟩
  | items hv h =>
    obtain ⟨forms, hforms, hread⟩ := exists_cleanedItems h key
    refine ⟨.list forms, ?_, isFilled_of_readAll ?_, hread⟩
    · rw [cleaned_of_items hv, hforms]
      rfl
    · rw [readAll_list, hread]
      exact hasked
  | @name column hblank h =>
    refine ⟨.str column, by rw [Value.cleaned], ?_, h.symm⟩
    rw [isFilled_str, hblank]
    rfl

/-- So can the names of columns. -/
theorem WritesNames.enters {names : List String} {raw : Value} (h : WritesNames names raw)
    (hnames : names ≠ []) (key : String) :
    ∃ form, raw.cleaned key = .ok form ∧ form.isFilled = true ∧
      itemsOf form = names.map .str := by
  cases h with
  | items hv =>
    have htexts : ∀ v ∈ names.map Value.str, ∃ s, v = .str s := by
      intro v hm
      obtain ⟨s, -, rfl⟩ := List.mem_map.mp hm
      exact ⟨s, rfl⟩
    refine ⟨.list (names.map .str), ?_, ?_, rfl⟩
    · rw [cleaned_of_items hv, QueryValue.cleanedItems_texts htexts]
      rfl
    · cases names with
      | nil => exact absurd rfl hnames
      | cons _ _ => rfl
  | @name column hblank h =>
    subst h
    refine ⟨.str column, by rw [Value.cleaned], ?_, rfl⟩
    rw [isFilled_str, hblank]
    rfl

/-! ### What is asked for -/

/-- The keys of an order, among the columns of a table. -/
def keysOf (asked : List (String × Bool)) (columns : List String) (nullsFirst : Bool) :
    List SortKey :=
  (asked.filter fun r => columns.contains r.1).map fun r => ⟨r.1, r.2, nullsFirst⟩

theorem keysOf_append (asked asked' : List (String × Bool)) (columns : List String)
    (nullsFirst : Bool) :
    keysOf (asked ++ asked') columns nullsFirst =
      keysOf asked columns nullsFirst ++ keysOf asked' columns nullsFirst := by
  rw [keysOf, List.filter_append, List.map_append]
  rfl

theorem value_resolve (params : Bag) (columns : List String) (nullsFirst : Bool) :
    (resolve params columns nullsFirst).value =
      keysOf (requested params).value columns nullsFirst := rfl

end SortKey

/-- A bag holds a raw value under a key, in the form that values have inside bags. -/
def Bag.Holds (bag : Bag) (key : String) (raw : Value) : Prop :=
  ∃ form, raw.cleaned key = .ok form ∧ bag.get? key = some form

/-- The bag of a table holds the values of the table. -/
theorem Bag.holds_of_ofTable {entries : List (Value × Value)} {bag : Bag} {key : String}
    {raw : Value} (hnodup : (entries.map Prod.fst).Nodup) (h : ofTable entries = .ok bag)
    (hm : (.str key, raw) ∈ entries) : bag.Holds key raw := by
  have henters : ∀ {es added}, List.Forall₂ Enters es added → (Value.str key, raw) ∈ es →
      ∃ form, raw.cleaned key = .ok form ∧ (key, form) ∈ added := by
    intro es added hes hmem
    induction hes with
    | nil => exact absurd hmem List.not_mem_nil
    | @cons e e' _ _ he _ ih =>
      rcases List.mem_cons.mp hmem with rfl | hmem
      · obtain ⟨hkey, hform⟩ := he
        cases hkey
        exact ⟨e'.2, hform, List.mem_cons_self⟩
      · obtain ⟨form, hform, hadded⟩ := ih hmem
        exact ⟨form, hform, List.mem_cons_of_mem _ hadded⟩
  obtain ⟨form, hform, hadded⟩ := henters ((ofTable_eq_ok_iff hnodup).mp h) hm
  exact ⟨form, hform, get?_of_mem hadded⟩

namespace SortKey

section Requested

variable {bag : Bag} {form : Value}

theorem filled_of_get? {key : String} (h : bag.get? key = some form)
    (hfilled : form.isFilled = true) : bag.filled key = true := by
  rw [Bag.filled, h]
  exact hfilled

theorem get_of_get? {key : String} (h : bag.get? key = some form) : bag.get key = form := by
  rw [Bag.get, h, Option.getD_some]

theorem requested_of_sort (h : bag.get? "sort" = some form) (hfilled : form.isFilled = true) :
    (requested bag).value = readAll form := by
  rw [requested, if_pos (filled_of_get? h hfilled), get_of_get? h]
  exact List.filterMap_map

/-- The columns that a value names, all in one direction. -/
def columnsOf (descending : Bool) (v : Value) : List (String × Bool) :=
  (itemsOf v).filterMap fun item => item.text?.map fun c => (c, descending)

theorem columnsOf_of_items {names : List String} (hnames : itemsOf form = names.map .str)
    (descending : Bool) : columnsOf descending form = names.map fun c => (c, descending) := by
  rw [columnsOf, hnames, List.filterMap_map, ← List.filterMap_eq_map]
  rfl

theorem requested_of_sortBy (hsort : bag.filled "sort" = false)
    (h : bag.get? "sortBy" = some form) (hfilled : form.isFilled = true) :
    (requested bag).value = columnsOf false form := by
  rw [requested, if_neg (by rw [hsort]; decide), if_pos (filled_of_get? h hfilled),
    ← get_of_get? h]
  rfl

theorem requested_of_sortByDesc (hsort : bag.filled "sort" = false)
    (hsortBy : bag.filled "sortBy" = false) (h : bag.get? "sortByDesc" = some form)
    (hfilled : form.isFilled = true) : (requested bag).value = columnsOf true form := by
  rw [requested, if_neg (by rw [hsort]; decide), if_neg (by rw [hsortBy]; decide),
    if_pos (filled_of_get? h hfilled), ← get_of_get? h]
  rfl

/-- A list in `sort` alone asks for what its items ask for, also when it has none. -/
theorem requested_of_list {items : List Value} (h : bag.get? "sort" = some (.list items))
    (hsortBy : bag.filled "sortBy" = false) (hsortByDesc : bag.filled "sortByDesc" = false) :
    (requested bag).value = items.filterMap read := by
  cases items with
  | cons item rest => exact requested_of_sort h rfl
  | nil =>
    have hsort : bag.filled "sort" = false := by
      rw [Bag.filled, h]
      rfl
    rw [requested, if_neg (by rw [hsort]; decide), if_neg (by rw [hsortBy]; decide),
      if_neg (by rw [hsortByDesc]; decide)]
    rfl

end Requested

/-! ### All spellings of an order -/

/-- **A bag spells an order**: in `sort`, whatever the other two parameters are, or all
ascending in `sortBy` or all descending in `sortByDesc`, when no parameter before it is
filled. -/
inductive Spells (asked : List (String × Bool)) (bag : Bag) : Prop
  /-- In `sort`. -/
  | sort {raw : Value} (h : WritesOrder asked raw) (hbag : bag.Holds "sort" raw)
  /-- All ascending in `sortBy`. -/
  | sortBy {raw : Value} (h : WritesNames (asked.map Prod.fst) raw)
      (hall : ∀ r ∈ asked, r.2 = false) (hsort : bag.filled "sort" = false)
      (hbag : bag.Holds "sortBy" raw)
  /-- All descending in `sortByDesc`. -/
  | sortByDesc {raw : Value} (h : WritesNames (asked.map Prod.fst) raw)
      (hall : ∀ r ∈ asked, r.2 = true) (hsort : bag.filled "sort" = false)
      (hsortBy : bag.filled "sortBy" = false) (hbag : bag.Holds "sortByDesc" raw)

theorem map_eq_of_direction {asked : List (String × Bool)} {descending : Bool}
    (h : ∀ r ∈ asked, r.2 = descending) :
    (asked.map Prod.fst).map (fun c => (c, descending)) = asked := by
  rw [List.map_map]
  refine (List.map_congr_left fun r hr => ?_).trans (List.map_id asked)
  rw [← h r hr]
  rfl

/-- A bag that spells an order asks for it. -/
theorem Spells.requested_eq {asked : List (String × Bool)} {bag : Bag} (h : Spells asked bag)
    (hasked : asked ≠ []) : (requested bag).value = asked := by
  have hnames : asked.map Prod.fst ≠ [] := fun hc => hasked (List.map_eq_nil_iff.mp hc)
  cases h with
  | sort h hbag =>
    obtain ⟨form, hform, hget⟩ := hbag
    obtain ⟨form', hform', hfilled, hread⟩ := h.enters hasked "sort"
    cases hform.symm.trans hform'
    rw [requested_of_sort hget hfilled, hread]
  | sortBy h hall hsort hbag =>
    obtain ⟨form, hform, hget⟩ := hbag
    obtain ⟨form', hform', hfilled, hitems⟩ := h.enters hnames "sortBy"
    cases hform.symm.trans hform'
    rw [requested_of_sortBy hsort hget hfilled, columnsOf_of_items hitems,
      map_eq_of_direction hall]
  | sortByDesc h hall hsort hsortBy hbag =>
    obtain ⟨form, hform, hget⟩ := hbag
    obtain ⟨form', hform', hfilled, hitems⟩ := h.enters hnames "sortByDesc"
    cases hform.symm.trans hform'
    rw [requested_of_sortByDesc hsort hsortBy hget hfilled, columnsOf_of_items hitems,
      map_eq_of_direction hall]

/-- A bag has a raw value in `sort` and nothing in the other two parameters. -/
structure SortedBy (bag : Bag) (raw : Value) : Prop where
  holds : bag.Holds "sort" raw
  sortBy : bag.filled "sortBy" = false
  sortByDesc : bag.filled "sortByDesc" = false

/-- A bag with a list in `sort` asks for what the items ask for, each by itself. -/
theorem SortedBy.requested_eq {bag : Bag} {raw : Value} {items forms : List Value}
    (h : SortedBy bag raw) (hraw : raw.items? = some items)
    (hforms : Value.cleanedItems "sort" items = .ok forms) :
    (requested bag).value = forms.filterMap read := by
  obtain ⟨form, hform, hget⟩ := h.holds
  rw [cleaned_of_items hraw, hforms] at hform
  cases hform
  exact requested_of_list hget h.sortBy h.sortByDesc

theorem SortedBy.exists_forms {bag : Bag} {raw : Value} {items : List Value}
    (h : SortedBy bag raw) (hraw : raw.items? = some items) :
    ∃ forms, Value.cleanedItems "sort" items = .ok forms := by
  obtain ⟨form, hform, -⟩ := h.holds
  rw [cleaned_of_items hraw] at hform
  obtain ⟨forms, hforms, -⟩ := exists_of_map_ok hform
  exact ⟨forms, hforms⟩

theorem cleanedItems_append {key : String} {xs ys xs' ys' : List Value}
    (hxs : Value.cleanedItems key xs = .ok xs') (hys : Value.cleanedItems key ys = .ok ys') :
    Value.cleanedItems key (xs ++ ys) = .ok (xs' ++ ys') := by
  induction xs generalizing xs' with
  | nil =>
    cases hxs
    exact hys
  | cons x rest ih =>
    rw [Value.cleanedItems] at hxs
    rw [List.cons_append, Value.cleanedItems]
    cases hx : x.cleaned key with
    | error e =>
      rw [hx] at hxs
      cases hxs
    | ok x' =>
      rw [hx] at hxs
      obtain ⟨rest', hrest, rfl⟩ := exists_of_map_ok hxs
      dsimp only
      rw [ih hrest]
      rfl

/-- **All spellings of an order agree.** However an order is written, a bag takes it; every
bag that spells it gives the columns asked for, in their order and with their directions, as
far as the table has them. And of two lists of entries of any kind one after the other, the
order is that of the first and then that of the second, so no entry that cannot be read
affects another. -/
theorem resolve_spelled {asked : List (String × Bool)} (hasked : asked ≠ [])
    (columns : List String) (nullsFirst : Bool) :
    (∀ raw key, WritesOrder asked raw ∨ WritesNames (asked.map Prod.fst) raw →
        ∃ form, raw.cleaned key = .ok form) ∧
      (∀ bag, Spells asked bag →
        (resolve bag columns nullsFirst).value = keysOf asked columns nullsFirst) ∧
      ∀ (first second both : Value) (xs ys : List Value), first.items? = some xs →
        second.items? = some ys → both.items? = some (xs ++ ys) →
        ∀ firstBag secondBag, SortedBy firstBag first → SortedBy secondBag second →
          (∃ form, both.cleaned "sort" = .ok form) ∧
          ∀ bag, SortedBy bag both →
            (resolve bag columns nullsFirst).value =
              (resolve firstBag columns nullsFirst).value ++
                (resolve secondBag columns nullsFirst).value := by
  refine ⟨?_, fun bag h => ?_, ?_⟩
  · rintro raw key (h | h)
    · obtain ⟨form, hform, -, -⟩ := h.enters hasked key
      exact ⟨form, hform⟩
    · obtain ⟨form, hform, -, -⟩ := h.enters (fun hc => hasked (List.map_eq_nil_iff.mp hc)) key
      exact ⟨form, hform⟩
  · rw [value_resolve, h.requested_eq hasked]
  · intro first second both xs ys hfirst hsecond hboth firstBag secondBag hxs hys
    obtain ⟨xs', hxs'⟩ := hxs.exists_forms hfirst
    obtain ⟨ys', hys'⟩ := hys.exists_forms hsecond
    have hforms := cleanedItems_append hxs' hys'
    refine ⟨⟨.list (xs' ++ ys'), ?_⟩, fun bag h => ?_⟩
    · rw [cleaned_of_items hboth, hforms]
      rfl
    · rw [value_resolve, value_resolve, value_resolve, hxs.requested_eq hfirst hxs',
        hys.requested_eq hsecond hys', h.requested_eq hboth hforms, List.filterMap_append,
        keysOf_append]

end SortKey

/-- A request for ponds by name and then, descending, by depth, in two ways of writing an
entry; another order is asked for beside it. -/
def Pond.ordered : List (Value × Value) :=
  [(.str "sortBy", .str "depth"),
    (.str "sort", .tuple [.map [(.str "name", .str " Asc\t")], .tuple [.str "depth", .str "DESC"]])]

namespace SortKey

/-- The order of ponds, and that of a list whose first entry cannot be read. -/
theorem resolve_spelled_pond :
    [("name", false), ("depth", true)] ≠ [] ∧
      (∃ bag, Bag.ofTable Pond.ordered = .ok bag ∧
        Spells [("name", false), ("depth", true)] bag ∧
        (resolve bag ["name", "depth"] true).value =
          [⟨"name", false, true⟩, ⟨"depth", true, true⟩]) ∧
      SortedBy (Bag.single "sort" (.list [.int 3])) (.list [.int 3]) ∧
      SortedBy (Bag.single "sort" (.list [.str "name"])) (.list [.str "name"]) ∧
      SortedBy (Bag.single "sort" (.list [.int 3, .str "name"])) (.list [.int 3, .str "name"]) ∧
      (resolve (Bag.single "sort" (.list [.int 3, .str "name"])) ["name", "depth"] true).value =
        (resolve (Bag.single "sort" (.list [.int 3])) ["name", "depth"] true).value ++
          (resolve (Bag.single "sort" (.list [.str "name"])) ["name", "depth"] true).value := by
  have hasked : [("name", false), ("depth", true)] ≠ [] := List.cons_ne_nil _ _
  obtain ⟨-, hspelled, hboth⟩ := resolve_spelled hasked ["name", "depth"] true
  obtain ⟨bag, hbag⟩ := exists_of_toBool (x := Bag.ofTable Pond.ordered) (by decide +kernel)
  have hspells : Spells [("name", false), ("depth", true)] bag := by
    have hm : _ ∈ Pond.ordered := List.mem_cons_of_mem _ List.mem_cons_self
    refine .sort (.items rfl (.cons (.table ?_) (.cons (.fixedPair ?_) .nil)))
      (Bag.holds_of_ofTable (by simp [Pond.ordered]) hbag hm)
    · exact ⟨[' '], "Asc".toList, ['\t'], rfl, rfl, rfl, rfl⟩
    · exact ⟨[], "DESC".toList, [], rfl, rfl, rfl, rfl⟩
  have hsorted : ∀ items : List Value, Value.cleanedItems "sort" items = .ok items →
      SortedBy (Bag.single "sort" (.list items)) (.list items) := by
    intro items hitems
    refine ⟨⟨.list items, ?_, rfl⟩, rfl, rfl⟩
    rw [cleaned_of_items rfl, hitems]
    rfl
  have hfirst := hsorted [.int 3] rfl
  have hsecond := hsorted [.str "name"] rfl
  have hwhole := hsorted [.int 3, .str "name"] rfl
  exact ⟨hasked, ⟨bag, hbag, hspells, hspelled bag hspells⟩, hfirst, hsecond, hwhole,
    (hboth _ _ _ _ _ rfl rfl rfl _ _ hfirst hsecond).2 _ hwhole⟩

end SortKey

end RelationalSearch
