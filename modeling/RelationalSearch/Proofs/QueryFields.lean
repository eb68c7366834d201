import RelationalSearch.Proofs.Arrival
import RelationalSearch.Proofs.KeyForms
import RelationalSearch.Proofs.QueryValues

/-!
# What a query says

The fields of a query come in any order, and those of one name say together what its
value is: a table if they are entries, the text of a single plain field, and otherwise
the list of all texts (`RelationalSearch.QueryFields.meant`). Two fields can contradict
each other, an entry of a name and another field of it, or two entries with one key
(`RelationalSearch.KeyForm.Clashing`).

Reading a query keeps one value for each name and brings it up to date with every field.
What it has at any time is what the fields so far mean, in the order of the first field
of each name (`RelationalSearch.QueryFields.gathered`): a value stands for the fields of
its name in one of four ways (`RelationalSearch.QueryFields.Standing`), and each kind of
field is checked against them. So reading fails exactly if two fields contradict each
other, and otherwise loses nothing (`RelationalSearch.Bag.ends_putFields`).

The other way round, a bag of texts, lists and tables of texts can be written out as
fields, which are read back to it (`RelationalSearch.Bag.putFields_bag`). Both are said of
the bag of a query in `RelationalSearch.Bag.ofQueryPairs_gathers`.
-/

namespace RelationalSearch

/-! ### Fields that contradict each other -/

namespace KeyForm

variable {forms : List KeyForm} {form : KeyForm}

/-- **Whether some forms contradict each other**: a name has entries and also stands by
itself or for items, or an entry is there twice. -/
def Clashing (forms : List KeyForm) : Prop :=
  (∃ name sub, entry name sub ∈ forms ∧ (plain name ∈ forms ∨ item name ∈ forms)) ∨
    ∃ name sub, 2 ≤ forms.count (entry name sub)

/-- Whether a form contradicts one of those before it. -/
def ClashesWith (forms : List KeyForm) : KeyForm → Prop
  | plain name => ∃ sub, entry name sub ∈ forms
  | item name => ∃ sub, entry name sub ∈ forms
  | entry name sub => plain name ∈ forms ∨ item name ∈ forms ∨ entry name sub ∈ forms

/-- One more form contradicts one of those before it, or the contradiction was there. -/
theorem clashing_concat : Clashing (forms ++ [form]) ↔ Clashing forms ∨ ClashesWith forms form := by
  have hcount : ∀ name sub, 2 ≤ (forms ++ [form]).count (entry name sub) ↔
      2 ≤ forms.count (entry name sub) ∨ (entry name sub ∈ forms ∧ form = entry name sub) := by
    intro name sub
    rw [List.count_append, List.count_singleton, ← List.count_pos_iff]
    by_cases hform : form = entry name sub
    · rw [if_pos (beq_iff_eq.mpr hform)]
      simp only [hform, and_true]
      omega
    · rw [if_neg (by simpa using hform)]
      simp only [hform, and_false, or_false, Nat.add_zero]
  simp only [Clashing, hcount, List.mem_append, List.mem_singleton, exists_or]
  cases form with
  | plain name => grind [ClashesWith]
  | item name => grind [ClashesWith]
  | entry name sub => grind [ClashesWith]

end KeyForm

namespace QueryFields

/-! ### What the fields of one name mean -/

/-- A field with its key read. -/
abbrev Field := KeyForm × String

/-- The entry of a table that a field gives. -/
def entryOf? : Field → Option (Value × Value)
  | (.entry _ sub, text) => some (.str sub, .str text)
  | _ => none

/-- The entries of a table that some fields give. -/
def entriesOf (own : List Field) : List (Value × Value) := own.filterMap entryOf?

/-- **What the fields of a name mean**: the table of their entries, the text of the only
field if it is plain, or the list of all texts. -/
def meant (own : List Field) : Value :=
  match entriesOf own with
  | [] =>
    match own with
    | [(.plain _, text)] => .str text
    | _ => .list (own.map fun field => .str field.2)
  | entries => .map entries

variable {own : List Field} {field : Field} {key name sub text : String} {read : List Field}

theorem meant_of_entries (h : entriesOf own ≠ []) :
    meant own = .map (entriesOf own) := by
  unfold meant
  split
  next hnone => exact absurd hnone h
  next => rfl

theorem meant_of_two (h : entriesOf own = []) (hlength : 2 ≤ own.length) :
    meant own = .list (own.map fun field => .str field.2) := by
  unfold meant
  rw [h]
  dsimp only
  split
  next => exact absurd hlength (by simp)
  next => rfl

/-- A bag takes a list of texts over as it is. -/
theorem cleaned_texts (key : String) (items : List String) :
    (Value.list (items.map .str)).cleaned key = .ok (.list (items.map .str)) := by
  have htexts : ∀ v ∈ items.map Value.str, ∃ s, v = .str s := by
    intro v hv
    obtain ⟨s, -, rfl⟩ := List.mem_map.mp hv
    exact ⟨s, rfl⟩
  rw [Value.cleaned, QueryValue.cleanedItems_texts htexts]
  rfl

/-- It takes what fields mean over as it is. -/
theorem cleaned_meant : (meant own).cleaned key = .ok (meant own) := by
  have htexts : own.map (fun field => Value.str field.2) = (own.map Prod.snd).map .str := by
    rw [List.map_map]
    rfl
  unfold meant
  rw [htexts]
  split
  · split
    · rfl
    · exact cleaned_texts key _
  · rfl

/-! ### What all fields mean -/

/-- The fields of a name. -/
def ofName (read : List Field) (name : String) : List Field :=
  read.filter fun field => field.1.name == name

/-- The names of the fields, in the order of the first field of each. -/
def names (read : List Field) : List String := firstOccurrences (read.map fun field => field.1.name)

/-- **What the fields mean**, name by name. -/
def gathered (read : List Field) : List (String × Value) :=
  (names read).map fun name => (name, meant (ofName read name))

/-- The forms of the fields. -/
def forms (read : List Field) : List KeyForm := read.map Prod.fst

theorem mem_ofName : field ∈ ofName read name ↔ field ∈ read ∧ field.1.name = name := by
  rw [ofName, List.mem_filter, beq_iff_eq]

theorem mem_names : name ∈ names read ↔ ofName read name ≠ [] := by
  rw [names, firstOccurrences]
  refine ((foldl_noteVisit _ List.nodup_nil).2 name).trans ?_
  simp [ofName, List.filter_eq_nil_iff]

theorem nodup_names : (names read).Nodup := (foldl_noteVisit _ List.nodup_nil).1

theorem names_concat : names (read ++ [field]) =
    if field.1.name ∈ names read then names read else names read ++ [field.1.name] := by
  simp [names, firstOccurrences]

theorem ofName_concat : ofName (read ++ [field]) name =
    if field.1.name = name then ofName read name ++ [field]
    else ofName read name := by
  rw [ofName, List.filter_append, List.filter_cons, List.filter_nil]
  split
  next hname => rw [if_pos (eq_of_beq hname)]; rfl
  next hname => rw [if_neg (by simpa using hname), List.append_nil]; rfl

/-! ### The value of a name -/

/-- **How the value of a name stands for its fields**: there is none, or they are entries
of a table, or there is one plain field, or they are other fields that are no entries. -/
inductive Standing (read : List Field) (name : String) : Option Value → Prop
  | absent (h : ofName read name = []) : Standing read name none
  | table (h : entriesOf (ofName read name) ≠ []) :
      Standing read name (some (.map (entriesOf (ofName read name))))
  | text {first : String} (h : ofName read name = [(.plain name, first)]) :
      Standing read name (some (.str first))
  | texts (h : entriesOf (ofName read name) = []) (hne : ofName read name ≠ [])
      (hplain : ∀ first, ofName read name ≠ [(.plain name, first)]) :
      Standing read name (some (.list ((ofName read name).map fun field => .str field.2)))

/-- Look-up among entries made for a list of keys. -/
theorem lookup_map (keys : List String) (f : String → Value) :
    (keys.map fun k => (k, f k)).lookup key = if key ∈ keys then some (f key) else none := by
  induction keys with
  | nil => rfl
  | cons k keys ih =>
    rw [List.map_cons, List.lookup_cons, ih]
    by_cases hkey : key = k
    · simp [hkey]
    · simp [hkey, beq_eq_false_iff_ne.mpr hkey]

/-- **What has been gathered for a name** stands for its fields. -/
theorem standing_lookup (read : List Field) (name : String) :
    Standing read name ((gathered read).lookup name) := by
  rw [gathered, lookup_map]
  split
  next hname =>
    have hne := mem_names.mp hname
    by_cases hentries : entriesOf (ofName read name) = []
    · unfold meant
      rw [hentries]
      dsimp only
      split
      next key first hone =>
        -- The only field is one of this name.
        have hmem : (.plain key, first) ∈ ofName read name := by
          rw [hone]
          exact List.mem_singleton.mpr rfl
        obtain rfl : key = name := (mem_ofName.mp hmem).2
        exact .text hone
      next hplain => exact .texts hentries hne fun first hone => hplain name first hone
    · rw [meant_of_entries hentries]
      exact .table hentries
  next hname => exact .absent (by simpa using mt mem_names.mpr hname)

/-- A form is one of the fields of its name. -/
theorem mem_forms {form : KeyForm} :
    form ∈ forms read ↔ ∃ text, (form, text) ∈ ofName read form.name := by
  rw [forms, List.mem_map]
  constructor
  · rintro ⟨⟨form, text⟩, hmem, rfl⟩
    exact ⟨text, mem_ofName.mpr ⟨hmem, rfl⟩⟩
  · rintro ⟨text, hmem⟩
    exact ⟨(form, text), (mem_ofName.mp hmem).1, rfl⟩

/-- The entries of a name are in the table that is made of its fields. -/
theorem mem_entriesOf {v : Value} :
    (.str sub, v) ∈ entriesOf (ofName read name) ↔
      ∃ text, v = .str text ∧ (.entry name sub, text) ∈ ofName read name := by
  rw [entriesOf, List.mem_filterMap]
  constructor
  · rintro ⟨⟨form, text⟩, hmem, hentry⟩
    cases form with
    | plain | item => cases hentry
    | entry key sub' =>
      cases hentry
      obtain rfl : key = name := (mem_ofName.mp hmem).2
      exact ⟨text, rfl, hmem⟩
  · rintro ⟨text, rfl, hmem⟩
    exact ⟨_, hmem, rfl⟩

/-- A name has entries if its table is not empty. -/
theorem exists_entry_iff :
    (∃ sub, .entry name sub ∈ forms read) ↔ entriesOf (ofName read name) ≠ [] := by
  constructor
  · rintro ⟨sub, hmem⟩
    obtain ⟨text, hmem⟩ := mem_forms.mp hmem
    exact List.ne_nil_of_mem (mem_entriesOf.mpr ⟨text, rfl, hmem⟩)
  · intro hne
    obtain ⟨e, he⟩ := List.exists_mem_of_ne_nil _ hne
    obtain ⟨⟨form, text⟩, hmem, hentry⟩ := List.mem_filterMap.mp he
    cases form with
    | plain | item => cases hentry
    | entry key sub =>
      obtain rfl : key = name := (mem_ofName.mp hmem).2
      exact ⟨sub, mem_forms.mpr ⟨text, hmem⟩⟩

/-- Values that are equal to a text are this text. -/
theorem equals_str_iff {v : Value} : v.equals (.str sub) = true ↔ v = .str sub := by
  cases v <;> simp [Value.equals, Value.mapping?]

/-- The table of a name has a key if the name has an entry with this key. -/
theorem isSome_lookup_iff :
    (Value.lookup (entriesOf (ofName read name)) (.str sub)).isSome = true ↔
      .entry name sub ∈ forms read := by
  rw [Value.lookup, Option.isSome_map, List.find?_isSome, mem_forms]
  constructor
  · rintro ⟨⟨key, v⟩, hmem, hkey⟩
    obtain rfl : key = .str sub := equals_str_iff.mp hkey
    obtain ⟨text, -, hmem⟩ := mem_entriesOf.mp hmem
    exact ⟨text, hmem⟩
  · rintro ⟨text, hmem⟩
    exact ⟨_, mem_entriesOf.mpr ⟨text, rfl, hmem⟩, equals_str_iff.mpr rfl⟩

/-! ### One more field -/

/-- Storing a value among entries made for a list of keys. -/
theorem putEntry_map {keys : List String} (hnodup : keys.Nodup) (f : String → Value) (v : Value) :
    putEntry (keys.map fun k => (k, f k)) key v =
      (if key ∈ keys then keys else keys ++ [key]).map fun k =>
        (k, if k = key then v else f k) := by
  induction keys with
  | nil => simp [putEntry]
  | cons k keys ih =>
    rw [List.nodup_cons] at hnodup
    rw [List.map_cons, putEntry]
    by_cases hk : k = key
    · subst hk
      rw [if_pos rfl, if_pos List.mem_cons_self, List.map_cons, if_pos rfl]
      refine congrArg _ (List.map_congr_left fun k' hk' => ?_)
      rw [if_neg (ne_of_mem_of_not_mem hk' hnodup.1)]
    · rw [if_neg hk, ih hnodup.2]
      by_cases hmem : key ∈ keys
      · rw [if_pos hmem, if_pos (List.mem_cons_of_mem k hmem), List.map_cons, if_neg hk]
      · have hmem' : key ∉ k :: keys := List.not_mem_cons_of_ne_of_not_mem (Ne.symm hk) hmem
        rw [if_neg hmem, if_neg hmem', List.cons_append, List.map_cons, if_neg hk]

/-- **What is gathered with one more field**: the value of its name is what the fields of
the name mean now. -/
theorem putEntry_gathered (hname : field.1.name = name) :
    putEntry (gathered read) name (meant (ofName read name ++ [field])) =
      gathered (read ++ [field]) := by
  subst hname
  rw [gathered, putEntry_map nodup_names, gathered, names_concat]
  refine List.map_congr_left fun name _ => ?_
  rw [ofName_concat]
  by_cases hname : name = field.1.name
  · rw [if_pos hname, if_pos hname.symm, hname]
  · rw [if_neg hname, if_neg (Ne.symm hname)]

/-- Another field of a name that has no entries. -/
theorem joined_eq_meant {v : Value} (h : Standing read name (some v)) (hmap : ∀ t, v ≠ .map t)
    (hfield : entryOf? field = none) :
    v.joined (.str field.2) = meant (ofName read name ++ [field]) := by
  cases h with
  | table => exact absurd rfl (hmap _)
  | @text first hone =>
    have hnone : entriesOf [(.plain name, first), field] = [] := by
      rw [entriesOf, List.filterMap_cons, List.filterMap_cons, hfield]
      rfl
    rw [hone, List.cons_append, List.nil_append, meant_of_two hnone (by simp)]
    rfl
  | texts hnone hne =>
    have hlength := List.length_pos_iff.mpr hne
    have hstill : entriesOf (ofName read name ++ [field]) = [] := by
      rw [entriesOf, List.filterMap_append, ← entriesOf, hnone, List.filterMap_cons, hfield]
      rfl
    have htwo : 2 ≤ (ofName read name ++ [field]).length := by
      rw [List.length_append, List.length_singleton]
      omega
    rw [meant_of_two hstill htwo, List.map_append]
    rfl

/-- **Whether a step takes in a field as it should**: it fails if the field contradicts one
of those before it, and otherwise has what they all mean. -/
def TakesIn (read : List Field) (field : Field)
    (step : Except SearchError (List (String × Value))) : Prop :=
  Ends (fun entries => ¬KeyForm.ClashesWith (forms read) field.1 ∧
      entries = gathered (read ++ [field]))
    (fun e => KeyForm.ClashesWith (forms read) field.1 ∧ e.kind = .invalidInput) step

/-- **A field that is no entry** contradicts the entries of its name only. Its text is the
value of the name, or joins the value that is there. -/
theorem takesIn_of_no_entry {form : KeyForm}
    {step : Except SearchError (List (String × Value))} (hname : form.name = name)
    (hfield : entryOf? (form, text) = none)
    (hclash : KeyForm.ClashesWith (forms read) form ↔ ∃ sub, .entry name sub ∈ forms read)
    (hnew : (gathered read).lookup name = none →
      step = .ok (putEntry (gathered read) name (meant [(form, text)])))
    (htable : ∀ t, (gathered read).lookup name = some (.map t) →
      ∃ e : SearchError, step = .error e ∧ e.kind = .invalidInput)
    (hjoin : ∀ v, (gathered read).lookup name = some v → v ≠ .null → (∀ t, v ≠ .map t) →
      step = .ok (putEntry (gathered read) name (v.joined (.str text)))) :
    TakesIn read (form, text) step := by
  have hput : putEntry (gathered read) name (meant (ofName read name ++ [(form, text)])) =
      gathered (read ++ [(form, text)]) := putEntry_gathered hname
  rw [exists_entry_iff] at hclash
  have hstanding := standing_lookup read name
  generalize hfound : (gathered read).lookup name = found at hstanding
  cases hstanding with
  | absent h =>
    rw [h] at hclash hput
    rw [hnew hfound]
    exact .result ⟨fun hc => hclash.mp hc rfl, hput⟩
  | table h =>
    obtain ⟨e, hstep, hkind⟩ := htable _ hfound
    rw [hstep]
    exact .failure ⟨hclash.mpr h, hkind⟩
  | text h =>
    rw [hjoin _ hfound (by simp) (by simp), joined_eq_meant (.text h) (by simp) hfield]
    refine .result ⟨fun hc => hclash.mp hc ?_, hput⟩
    rw [h]
    rfl
  | texts h hne hplain =>
    rw [hjoin _ hfound (by simp) (by simp), joined_eq_meant (.texts h hne hplain) (by simp) hfield]
    exact .result ⟨fun hc => hclash.mp hc h, hput⟩

theorem takesIn_putPlain : TakesIn read (.plain name, text)
    (Bag.putPlain (gathered read) name (.str text)) := by
  have hname : (KeyForm.plain name).name = name := rfl
  refine takesIn_of_no_entry hname rfl Iff.rfl (fun hnew => ?_) (fun t htable => ?_)
    fun v hv hnull hmap => ?_
  · rw [Bag.putPlain, hnew]
    rfl
  · rw [Bag.putPlain, htable]
    exact ⟨_, rfl, rfl⟩
  · rw [Bag.putPlain, hv]
    cases v with
    | map t => exact absurd rfl (hmap t)
    | _ => rfl

theorem takesIn_putItem : TakesIn read (.item name, text)
    (Bag.putItem (gathered read) name (.str text)) := by
  have hname : (KeyForm.item name).name = name := rfl
  refine takesIn_of_no_entry hname rfl Iff.rfl (fun hnew => ?_) (fun t htable => ?_)
    fun v hv hnull hmap => ?_
  · rw [Bag.putItem, hnew]
    rfl
  · rw [Bag.putItem, htable]
    exact ⟨_, rfl, rfl⟩
  · rw [Bag.putItem, hv]
    cases v with
    | map t => exact absurd rfl (hmap t)
    | null => exact absurd rfl hnull
    | _ => rfl

/-- **An entry** contradicts the same entry and all other fields of its name. -/
theorem takesIn_putSubEntry (hclear : ¬KeyForm.Clashing (forms read)) :
    TakesIn read (.entry name sub, text)
      (Bag.putSubEntry (gathered read) name sub (.str text)) := by
  have hput : putEntry (gathered read) name
      (meant (ofName read name ++ [(.entry name sub, text)])) =
        gathered (read ++ [(.entry name sub, text)]) := putEntry_gathered rfl
  have hstanding := standing_lookup read name
  have hmem : ∀ {form : KeyForm}, form ∈ forms read → form.name = name → ofName read name ≠ [] := by
    rintro form hform rfl
    obtain ⟨text, hfield⟩ := mem_forms.mp hform
    exact List.ne_nil_of_mem hfield
  unfold Bag.putSubEntry
  generalize (gathered read).lookup name = found at hstanding ⊢
  cases hstanding with
  | absent h =>
    -- The name has no field yet, so there is none to contradict.
    rw [h] at hput
    refine .result ⟨?_, hput⟩
    rintro (hc | hc | hc) <;> exact hmem hc rfl h
  | table h =>
    dsimp only [Option.getD_some]
    split
    next hsome => exact .failure ⟨Or.inr (Or.inr (isSome_lookup_iff.mp hsome)), rfl⟩
    next hnew =>
      -- The name has other entries, and no contradiction so far, so it has nothing but entries.
      obtain ⟨sub', hentry⟩ := exists_entry_iff.mpr h
      have hmore : entriesOf (ofName read name ++ [(.entry name sub, text)]) =
          entriesOf (ofName read name) ++ [(.str sub, .str text)] := List.filterMap_append
      have hne : entriesOf (ofName read name ++ [(.entry name sub, text)]) ≠ [] := by
        rw [hmore]
        exact List.append_ne_nil_of_right_ne_nil _ (List.cons_ne_nil _ _)
      rw [meant_of_entries hne, hmore] at hput
      refine .result ⟨?_, hput⟩
      rintro (hc | hc | hc)
      · exact hclear (Or.inl ⟨name, sub', hentry, Or.inl hc⟩)
      · exact hclear (Or.inl ⟨name, sub', hentry, Or.inr hc⟩)
      · exact hnew (isSome_lookup_iff.mpr hc)
  | @text first h =>
    have hplain : (.plain name, first) ∈ ofName read name := h ▸ List.mem_singleton.mpr rfl
    exact .failure ⟨Or.inl (mem_forms.mpr ⟨first, hplain⟩), rfl⟩
  | texts h hne =>
    -- Any of the fields so far contradicts an entry.
    obtain ⟨⟨form, text'⟩, hfield⟩ := List.exists_mem_of_ne_nil _ hne
    have hnone := List.filterMap_eq_nil_iff.mp h _ hfield
    obtain rfl : form.name = name := (mem_ofName.mp hfield).2
    cases form with
    | plain key => exact .failure ⟨Or.inl (mem_forms.mpr ⟨text', hfield⟩), rfl⟩
    | item key => exact .failure ⟨Or.inr (Or.inl (mem_forms.mpr ⟨text', hfield⟩)), rfl⟩
    | entry key sub' => cases hnone

/-! ### All fields -/

/-- The fields of a query with their keys read. -/
def readAll (fields : List (String × String)) : List Field :=
  fields.map fun f => (KeyForm.read f.1, f.2)

end QueryFields

namespace Bag

open QueryFields

variable {entries : List (String × Value)} {fields : List (String × String)} {key sub : String}

/-- Adds fields one after the other to what has been read so far. -/
def putFields (entries : List (String × Value)) (fields : List (String × String)) :
    Except SearchError (List (String × Value)) :=
  (fields.map fun f => (f.1, Value.str f.2)).foldlM (fun entries p => putField entries p.1 p.2)
    entries

theorem putFields_cons {f : String × String} : putFields entries (f :: fields) =
    (putField entries f.1 (.str f.2)).bind fun entries' => putFields entries' fields := rfl

theorem putFields_append {fields' : List (String × String)} :
    putFields entries (fields ++ fields') =
      (putFields entries fields).bind fun entries' => putFields entries' fields' := by
  rw [putFields, List.map_append, List.foldlM_append]
  rfl

/-- A field is taken in as its key is read. -/
theorem takesIn_putField {read : List Field} (hclear : ¬KeyForm.Clashing (forms read))
    (f : String × String) :
    TakesIn read (KeyForm.read f.1, f.2) (putField (gathered read) f.1 (.str f.2)) := by
  unfold putField
  cases KeyForm.read f.1 with
  | plain key => exact takesIn_putPlain
  | item key => exact takesIn_putItem
  | entry key sub => exact takesIn_putSubEntry hclear

/-- **Reading a query** fails exactly if two fields contradict each other, and otherwise has
what the fields mean. -/
theorem ends_putFields (fields : List (String × String)) :
    Ends (fun entries => ¬KeyForm.Clashing (forms (readAll fields)) ∧
        entries = gathered (readAll fields))
      (fun e => KeyForm.Clashing (forms (readAll fields)) ∧ e.kind = .invalidInput)
      (putFields [] fields) := by
  -- The induction is on the last field, which meets what all before it have made.
  induction fields using List.reverseRecOn with
  | nil => exact .result ⟨by simp [KeyForm.Clashing, readAll, forms], rfl⟩
  | append_singleton fields f ih =>
    have hread : readAll (fields ++ [f]) = readAll fields ++ [(KeyForm.read f.1, f.2)] :=
      List.map_append
    have hforms : forms (readAll (fields ++ [f])) =
        forms (readAll fields) ++ [KeyForm.read f.1] := by
      rw [hread]
      exact List.map_append
    rw [putFields_append, hforms, hread]
    refine Ends.bind (ih.mono ?_ fun e he => ⟨KeyForm.clashing_concat.mpr (Or.inl he.1), he.2⟩)
    rintro entries ⟨hclear, rfl⟩
    rw [putFields_cons]
    refine Ends.bind ((takesIn_putField hclear f).mono ?_ ?_)
    · rintro entries ⟨hfits, rfl⟩
      exact .result ⟨fun hc => (KeyForm.clashing_concat.mp hc).elim hclear hfits, rfl⟩
    · rintro e ⟨hclash, hkind⟩
      exact ⟨KeyForm.clashing_concat.mpr (Or.inr hclash), hkind⟩

/-- Where all keys are different, the key of an entry is none of those before it. -/
theorem not_mem_keys_of_nodup {α : Type} {done rest : List (String × α)} {e : String × α}
    (h : ((done ++ e :: rest).map Prod.fst).Nodup) : e.1 ∉ done.map Prod.fst := by
  rw [List.map_append, List.nodup_append] at h
  exact fun hmem => h.2.2 _ hmem _ List.mem_cons_self rfl

/-- Entries with different keys that a bag takes over as they are make up a bag. -/
theorem ofRawEntries_of_cleaned (hnodup : (entries.map Prod.fst).Nodup)
    (hclean : ∀ e ∈ entries, e.2.cleaned e.1 = .ok e.2) :
    ofRawEntries entries = .ok ⟨entries, hnodup⟩ := by
  have htable : ofRawEntries entries = ofTable (entries.map fun e => (.str e.1, e.2)) := by
    rw [ofTable_eq_foldlM, List.foldlM_map]
    rfl
  have hkeys : ((entries.map fun e => (Value.str e.1, e.2)).map Prod.fst).Nodup := by
    have hsame : (entries.map fun e => (Value.str e.1, e.2)).map Prod.fst =
        (entries.map Prod.fst).map Value.str := by simp
    rw [hsame]
    exact hnodup.map fun _ _ h => Value.str.inj h
  rw [htable, ofTable_eq_ok_iff hkeys, List.forall₂_map_left_iff]
  exact List.forall₂_same.mpr fun e he => ⟨rfl, hclean e he⟩

/-- What the fields mean has a name once. -/
theorem keys_gathered {read : List Field} : (gathered read).map Prod.fst = names read := by
  rw [gathered, List.map_map]
  exact List.map_id _

end Bag

/-! ### Bags written out as fields -/

namespace Value

/-- A table of texts. -/
def textTable (entries : List (String × String)) : List (Value × Value) :=
  entries.map fun e => (str e.1, str e.2)

/-- **The values that fields can say**: a text, some texts, or a table of texts whose keys
can stand between brackets. -/
inductive Writable : Value → Prop
  | text (s : String) : Writable (str s)
  | texts {items : List String} (hne : items ≠ []) : Writable (list (items.map str))
  | table {entries : List (String × String)} (hne : entries ≠ [])
      (hnodup : (entries.map Prod.fst).Nodup)
      (hsubs : ∀ e ∈ entries, e.1 ≠ "" ∧ KeyForm.Bare e.1) : Writable (map (textTable entries))

/-- The fields that say a value of a parameter. -/
def fields (key : String) : Value → List (String × String)
  | str s => [((KeyForm.plain key).written, s)]
  | list items => items.filterMap fun v => v.text?.map fun s => ((KeyForm.item key).written, s)
  | map entries => entries.filterMap fun e =>
    match e with
    | (str sub, str s) => some ((KeyForm.entry key sub).written, s)
    | _ => none
  | _ => []

theorem fields_list (key : String) (items : List String) :
    (list (items.map str)).fields key = items.map fun s => ((KeyForm.item key).written, s) := by
  rw [fields, List.filterMap_map]
  exact congrFun List.filterMap_eq_map items

theorem fields_textTable (key : String) (entries : List (String × String)) :
    (map (textTable entries)).fields key =
      entries.map fun e => ((KeyForm.entry key e.1).written, e.2) := by
  rw [fields, textTable, List.filterMap_map]
  exact congrFun List.filterMap_eq_map entries

/-- A bag takes what fields can say over as it is. -/
theorem Writable.cleaned_eq {key : String} {v : Value} (h : v.Writable) :
    v.cleaned key = .ok v := by
  cases h with
  | texts => exact QueryFields.cleaned_texts key _
  | text | table => rfl

/-- A table of texts does not have a key that it has no entry for. -/
theorem lookup_textTable {entries : List (String × String)} {sub : String}
    (h : sub ∉ entries.map Prod.fst) : lookup (textTable entries) (str sub) = none := by
  rw [lookup, Option.map_eq_none_iff, List.find?_eq_none]
  intro e he hequal
  obtain ⟨e', he', rfl⟩ := List.mem_map.mp he
  cases QueryFields.equals_str_iff.mp hequal
  exact h (List.mem_map_of_mem he')

end Value

namespace Bag

open QueryFields

variable {entries : List (String × Value)} {key : String} {v : Value}

/-- **Whether a bag can be written out as fields.** -/
def Writable (bag : Bag) : Prop := ∀ e ∈ bag.entries, e.1 ≠ "" ∧ KeyForm.Bare e.1 ∧ e.2.Writable

/-- The fields that say what is in a bag. -/
def fields (bag : Bag) : List (String × String) := bag.entries.flatMap fun e => e.2.fields e.1

theorem lookup_last (hnew : key ∉ entries.map Prod.fst) :
    (entries ++ [(key, v)]).lookup key = some v := by
  rw [List.lookup_append, lookup_of_not_mem hnew, Option.none_or]
  exact List.lookup_cons_self

theorem putEntry_last (hnew : key ∉ entries.map Prod.fst) (v' : Value) :
    putEntry (entries ++ [(key, v)]) key v' = entries ++ [(key, v')] := by
  induction entries with
  | nil => exact if_pos rfl
  | cons e rest ih =>
    rw [List.map_cons, List.mem_cons, not_or] at hnew
    rw [List.cons_append, putEntry, if_neg (Ne.symm hnew.1), ih hnew.2]
    rfl

/-- Items come to the end of the list that is read last. -/
theorem putFields_items (hne : key ≠ "") (hbare : KeyForm.Bare key)
    (hnew : key ∉ entries.map Prod.fst) (done items : List String) :
    putFields (entries ++ [(key, .list (done.map .str))])
        (items.map fun s => ((KeyForm.item key).written, s)) =
      .ok (entries ++ [(key, .list ((done ++ items).map .str))]) := by
  induction items generalizing done with
  | nil => rw [List.append_nil]; rfl
  | cons s items ih =>
    have hput : putField (entries ++ [(key, .list (done.map .str))]) (KeyForm.item key).written
        (.str s) = .ok (entries ++ [(key, .list ((done ++ [s]).map .str))]) := by
      rw [putField, KeyForm.read_written_item hne hbare]
      dsimp only
      rw [putItem, lookup_last hnew]
      dsimp only
      rw [putEntry_last hnew, List.map_append]
      rfl
    rw [List.map_cons, putFields_cons, hput]
    exact (ih (done ++ [s])).trans (by rw [List.append_assoc]; rfl)

/-- Entries come to the end of the table that is read last. -/
theorem putFields_entries (hne : key ≠ "") (hbare : KeyForm.Bare key)
    (hnew : key ∉ entries.map Prod.fst) {done table : List (String × String)}
    (hnodup : ((done ++ table).map Prod.fst).Nodup)
    (hsubs : ∀ e ∈ table, e.1 ≠ "" ∧ KeyForm.Bare e.1) :
    putFields (entries ++ [(key, .map (Value.textTable done))])
        (table.map fun e => ((KeyForm.entry key e.1).written, e.2)) =
      .ok (entries ++ [(key, .map (Value.textTable (done ++ table)))]) := by
  induction table generalizing done with
  | nil => rw [List.append_nil]; rfl
  | cons e table ih =>
    obtain ⟨⟨hsubne, hsub⟩, hrest⟩ := List.forall_mem_cons.mp hsubs
    have hfresh : e.1 ∉ done.map Prod.fst := not_mem_keys_of_nodup hnodup
    have hput : putField (entries ++ [(key, .map (Value.textTable done))])
        (KeyForm.entry key e.1).written (.str e.2) =
          .ok (entries ++ [(key, .map (Value.textTable (done ++ [e])))]) := by
      rw [putField, KeyForm.read_written_entry hne hbare hsubne hsub]
      dsimp only
      rw [putSubEntry, lookup_last hnew]
      dsimp only [Option.getD_some]
      rw [Value.lookup_textTable hfresh, if_neg (by simp), putEntry_last hnew, Value.textTable,
        Value.textTable, List.map_append]
      rfl
    have happend : done ++ [e] ++ table = done ++ e :: table := by rw [List.append_assoc]; rfl
    rw [List.map_cons, putFields_cons, hput, ← happend]
    exact ih (by rwa [happend]) hrest

/-- **The fields of one parameter are read back to it.** -/
theorem putFields_fields (hne : key ≠ "") (hbare : KeyForm.Bare key)
    (hnew : key ∉ entries.map Prod.fst) (hv : v.Writable) :
    putFields entries (v.fields key) = .ok (entries ++ [(key, v)]) := by
  have hnone : entries.lookup key = none := lookup_of_not_mem hnew
  cases hv with
  | text s =>
    rw [Value.fields, putFields_cons, KeyForm.written, putField, KeyForm.read_of_bare hbare]
    dsimp only
    rw [putPlain, hnone]
    dsimp only
    rw [putEntry_of_not_mem hnew]
    rfl
  | texts hitems =>
    obtain ⟨first, items, rfl⟩ := List.exists_cons_of_ne_nil hitems
    have hput : putField entries (KeyForm.item key).written (.str first) =
        .ok (entries ++ [(key, .list ([first].map .str))]) := by
      rw [putField, KeyForm.read_written_item hne hbare]
      dsimp only
      rw [putItem, hnone]
      dsimp only
      rw [putEntry_of_not_mem hnew]
      rfl
    rw [Value.fields_list, List.map_cons, putFields_cons, hput]
    exact putFields_items hne hbare hnew [first] items
  | table htable hnodup hsubs =>
    obtain ⟨e, table, rfl⟩ := List.exists_cons_of_ne_nil htable
    obtain ⟨⟨hsubne, hsub⟩, hrest⟩ := List.forall_mem_cons.mp hsubs
    have hput : putField entries (KeyForm.entry key e.1).written (.str e.2) =
        .ok (entries ++ [(key, .map (Value.textTable [e]))]) := by
      rw [putField, KeyForm.read_written_entry hne hbare hsubne hsub]
      dsimp only
      rw [putSubEntry, hnone]
      dsimp only [Option.getD_none]
      rw [if_neg (by simp [Value.lookup]), putEntry_of_not_mem hnew]
      rfl
    rw [Value.fields_textTable, List.map_cons, putFields_cons, hput]
    have hkeys : (([e] ++ table).map Prod.fst).Nodup := hnodup
    exact putFields_entries hne hbare hnew hkeys hrest

/-- The fields of several parameters are read back to them, one parameter after the other. -/
theorem putFields_flatMap {done rest : List (String × Value)}
    (hnodup : ((done ++ rest).map Prod.fst).Nodup)
    (hwritable : ∀ e ∈ rest, e.1 ≠ "" ∧ KeyForm.Bare e.1 ∧ e.2.Writable) :
    putFields done (rest.flatMap fun e => e.2.fields e.1) = .ok (done ++ rest) := by
  induction rest generalizing done with
  | nil => rw [List.append_nil]; rfl
  | cons e rest ih =>
    obtain ⟨⟨hne, hbare, hv⟩, hrest⟩ := List.forall_mem_cons.mp hwritable
    have hnew : e.1 ∉ done.map Prod.fst := not_mem_keys_of_nodup hnodup
    have happend : done ++ [e] ++ rest = done ++ e :: rest := by rw [List.append_assoc]; rfl
    rw [List.flatMap_cons, putFields_append, putFields_fields hne hbare hnew hv, ← happend]
    exact ih (by rwa [happend]) hrest

/-- **A bag written out as fields is read back to it.** -/
theorem putFields_bag {bag : Bag} (h : bag.Writable) :
    putFields [] bag.fields = .ok bag.entries :=
  putFields_flatMap bag.nodup h

/-! ### Queries -/

/-- **What a query says is what its bag holds.** A key without line feeds has the form that
is written like it. If two fields contradict each other the query is refused, and
otherwise its bag has for each name, in the order of the first field of each, what the
fields of the name mean. So a bag of texts, lists and tables of texts can be written out as
fields and read back. -/
theorem ofQueryPairs_gathers {fields : List (String × String)}
    (hline : ∀ f ∈ fields, '\n' ∉ f.1.toList) :
    (∀ f ∈ fields, ∀ form,
      KeyForm.read f.1 = form ↔ form.Proper ∧ form.written = f.1) ∧
    (KeyForm.Clashing (forms (readAll fields)) →
      ∃ e, ofQueryPairs (fields.map fun f => (f.1, .str f.2)) = .error e ∧
        e.kind = .invalidInput) ∧
    (¬KeyForm.Clashing (forms (readAll fields)) →
      ∃ bag, ofQueryPairs (fields.map fun f => (f.1, .str f.2)) = .ok bag ∧
        bag.entries = gathered (readAll fields)) ∧
    ∀ bag : Bag, bag.Writable →
      ofQueryPairs (bag.fields.map fun f => (f.1, .str f.2)) = .ok bag := by
  have hquery : ∀ fields : List (String × String),
      ofQueryPairs (fields.map fun f => (f.1, .str f.2)) =
        (putFields [] fields).bind ofRawEntries := fun _ => rfl
  refine ⟨fun f hf form => KeyForm.read_eq_iff (hline f hf), fun hclash => ?_, fun hclear => ?_,
    fun bag hbag => ?_⟩
  · rw [hquery]
    cases hread : putFields [] fields with
    | ok entries => exact absurd hclash ((ends_putFields fields).of_ok hread).1
    | error e => exact ⟨e, rfl, ((ends_putFields fields).of_error hread).2⟩
  · rw [hquery]
    cases hread : putFields [] fields with
    | error e => exact absurd ((ends_putFields fields).of_error hread).1 hclear
    | ok entries =>
      obtain rfl := ((ends_putFields fields).of_ok hread).2
      refine ⟨_, ofRawEntries_of_cleaned (by rw [keys_gathered]; exact nodup_names) ?_, rfl⟩
      intro e he
      obtain ⟨name, -, rfl⟩ := List.mem_map.mp he
      exact cleaned_meant
  · rw [hquery, putFields_bag hbag]
    exact ofRawEntries_of_cleaned bag.nodup fun e he => (hbag e he).2.2.cleaned_eq

end Bag

namespace Pond

/-- A query with another parameter between the items of a list. -/
def tagged : List (String × String) := [("tag", "new"), ("sort[name]", "desc"), ("tag[]", "old")]

/-- A query in which a list is also a table. -/
def mistagged : List (String × String) := [("tag[]", "new"), ("tag[first]", "old")]

/-- A bag with one value of each kind that fields can say. -/
def sayable : Bag :=
  Bag.ofEntries [("name", .str "koi"), ("tag", .list [.str "new"]),
    ("sort", .map [(.str "name", .str "desc")])]

theorem writable_sayable : sayable.Writable := by
  intro e he
  change e ∈ [("name", .str "koi"), ("tag", .list [.str "new"]),
    ("sort", .map [(.str "name", .str "desc")])] at he
  simp only [List.mem_cons, List.not_mem_nil, or_false] at he
  rcases he with rfl | rfl | rfl
  · exact ⟨by decide, by decide, .text "koi"⟩
  · exact ⟨by decide, by decide, .texts (List.cons_ne_nil "new" [])⟩
  · exact ⟨by decide, by decide,
      .table (List.cons_ne_nil ("name", "desc") []) (by decide) (by decide)⟩

end Pond

namespace Bag

open QueryFields

/-- The tags are read, the tags that are also a table are refused, and the bag is read back. -/
theorem ofQueryPairs_gathers_tags :
    (∀ f ∈ Pond.tagged, '\n' ∉ f.1.toList) ∧ (∀ f ∈ Pond.mistagged, '\n' ∉ f.1.toList) ∧
      names (readAll Pond.tagged) = ["tag", "sort"] ∧
      (∃ bag, ofQueryPairs (Pond.tagged.map fun f => (f.1, .str f.2)) = .ok bag ∧
        bag.entries = gathered (readAll Pond.tagged)) ∧
      (∃ e, ofQueryPairs (Pond.mistagged.map fun f => (f.1, .str f.2)) = .error e ∧
        e.kind = .invalidInput) ∧
      Pond.sayable.Writable ∧
      ofQueryPairs (Pond.sayable.fields.map fun f => (f.1, .str f.2)) = .ok Pond.sayable := by
  have htagged : ∀ f ∈ Pond.tagged, '\n' ∉ f.1.toList := by decide
  have hmistagged : ∀ f ∈ Pond.mistagged, '\n' ∉ f.1.toList := by decide
  have hread : (ofQueryPairs (Pond.tagged.map fun f => (f.1, .str f.2))).toBool = true := by
    decide +kernel
  have hclash : KeyForm.Clashing (forms (readAll Pond.mistagged)) :=
    Or.inl ⟨"tag", "first", by decide +kernel, Or.inr (by decide +kernel)⟩
  obtain ⟨-, hfails, hgathers, hback⟩ := ofQueryPairs_gathers htagged
  obtain ⟨-, hrefused, -, -⟩ := ofQueryPairs_gathers hmistagged
  refine ⟨htagged, hmistagged, by decide +kernel, hgathers fun hc => ?_, hrefused hclash,
    Pond.writable_sayable, hback _ Pond.writable_sayable⟩
  obtain ⟨e, he, -⟩ := hfails hc
  rw [he] at hread
  cases hread

end Bag

end RelationalSearch
