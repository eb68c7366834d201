import RelationalSearch.Proofs.Operands

/-!
# What a query string is compared for

The fields of a query give texts, lists of texts, and tables: a field `key[sub]` gives
the table of `key` an entry (`RelationalSearch.QueryValue`). Reading the fields one after
the other keeps to these three kinds, and a bag takes them over as they are
(`RelationalSearch.Bag.queryValue_of_ofQueryPairs`).

A text or a list of texts is compared as it should be. A table is of use for the order
only, but nothing on the way to the columns keeps it out: when the key in front of the
bracket ends in the name of a column, or in the key of the broad-search parameter, the
table is compared with the column as it stands, or the text of the table is made a
pattern. There is no other way for an operand to be anything but a scalar or a list of
scalars (`RelationalSearch.Compiler.MakesOf.wellFormed_or_of_query`).
-/

namespace RelationalSearch

/-! ### The values that a query gives -/

/-- **What the fields of a query say of a parameter**: a text, a list of texts, or a table
with an entry for every keyed field. -/
inductive QueryValue (fields : List (String × String)) (key : String) : Value → Prop
  | text (s : String) : QueryValue fields key (.str s)
  | texts {items : List Value} (h : ∀ v ∈ items, ∃ s, v = .str s) :
      QueryValue fields key (.list items)
  | keyed {entries : List (Value × Value)} (hne : entries ≠ [])
      (h : ∀ e ∈ entries, ∃ field sub text, (field, text) ∈ fields ∧
        KeyForm.read field = .entry key sub ∧ e = (.str sub, .str text)) :
      QueryValue fields key (.map entries)

namespace QueryValue

variable {fields : List (String × String)} {key : String} {v : Value}

/-- A repeated parameter that is no table becomes a list of texts. -/
theorem joined (h : QueryValue fields key v) (hmap : ∀ entries, v ≠ .map entries) (s : String) :
    QueryValue fields key (v.joined (.str s)) := by
  cases h with
  | text first =>
    refine .texts fun x hx => ?_
    rcases List.mem_cons.mp hx with rfl | hx
    · exact ⟨first, rfl⟩
    · exact ⟨s, List.mem_singleton.mp hx⟩
  | texts hitems =>
    refine .texts fun x hx => ?_
    rcases List.mem_append.mp hx with hx | hx
    · exact hitems x hx
    · exact ⟨s, List.mem_singleton.mp hx⟩
  | keyed => exact absurd rfl (hmap _)

/-- A bag takes lists of texts over as they are. -/
theorem cleanedItems_texts {items : List Value} (h : ∀ v ∈ items, ∃ s, v = .str s) :
    Value.cleanedItems key items = .ok items := by
  induction items with
  | nil => rfl
  | cons v rest ih =>
    obtain ⟨s, rfl⟩ := h v List.mem_cons_self
    rw [Value.cleanedItems, Value.cleaned, ih fun v hv => h v (List.mem_cons_of_mem _ hv)]
    rfl

/-- **A bag takes what a query says over as it is.** -/
theorem cleaned_eq (h : QueryValue fields key v) : v.cleaned key = .ok v := by
  cases h with
  | text s => rfl
  | texts hitems =>
    rw [Value.cleaned, cleanedItems_texts hitems]
    rfl
  | keyed => rfl

/-- What is no table consists of texts. -/
theorem exists_map_or_isScalar (h : QueryValue fields key v) :
    (∃ entries, v = .map entries) ∨ ∀ x ∈ v.singles, x.isScalar = true := by
  cases h with
  | text s =>
    refine Or.inr fun x hx => ?_
    rw [List.mem_singleton.mp hx]
    rfl
  | texts hitems =>
    refine Or.inr fun x hx => ?_
    obtain ⟨s, rfl⟩ := hitems x hx
    rfl
  | keyed => exact Or.inl ⟨_, rfl⟩

end QueryValue

/-! ### Reading the fields -/

namespace Bag

variable {fields : List (String × String)} {entries entries' : List (String × Value)}
  {key sub text : String}

/-- Where all entries are such as the fields say, they still are after one more of this
kind has been stored. -/
theorem queryValue_putEntry (hinv : ∀ e ∈ entries, QueryValue fields e.1 e.2) {v : Value}
    (hv : QueryValue fields key v) : ∀ e ∈ putEntry entries key v, QueryValue fields e.1 e.2 := by
  intro e he
  rcases mem_putEntry he with rfl | he
  · exact hv
  · exact hinv e he

theorem queryValue_putPlain (hinv : ∀ e ∈ entries, QueryValue fields e.1 e.2)
    (h : putPlain entries key (.str text) = .ok entries') :
    ∀ e ∈ entries', QueryValue fields e.1 e.2 := by
  unfold putPlain at h
  split at h
  next =>
    cases h
    exact queryValue_putEntry hinv (.text text)
  next => cases h
  next current hmap hcurrent =>
    -- A table would have been turned away, so there are texts that this one joins.
    cases h
    refine queryValue_putEntry hinv ((hinv _ (mem_of_lookup hcurrent)).joined ?_ text)
    rintro table rfl
    exact hmap table rfl

theorem queryValue_putItem (hinv : ∀ e ∈ entries, QueryValue fields e.1 e.2)
    (h : putItem entries key (.str text) = .ok entries') :
    ∀ e ∈ entries', QueryValue fields e.1 e.2 := by
  have hfirst : QueryValue fields key (.list [.str text]) :=
    .texts fun v hv => ⟨text, List.mem_singleton.mp hv⟩
  unfold putItem at h
  split at h
  next =>
    cases h
    exact queryValue_putEntry hinv hfirst
  next =>
    cases h
    exact queryValue_putEntry hinv hfirst
  next => cases h
  next current hnull hmap hcurrent =>
    cases h
    refine queryValue_putEntry hinv ((hinv _ (mem_of_lookup hcurrent)).joined ?_ text)
    rintro table rfl
    exact hmap table rfl

theorem queryValue_putSubEntry {field : String} (hfield : (field, text) ∈ fields)
    (hread : KeyForm.read field = .entry key sub)
    (hinv : ∀ e ∈ entries, QueryValue fields e.1 e.2)
    (h : putSubEntry entries key sub (.str text) = .ok entries') :
    ∀ e ∈ entries', QueryValue fields e.1 e.2 := by
  unfold putSubEntry at h
  split at h
  next table htable =>
    split at h
    next => cases h
    next =>
      cases h
      -- The table so far is empty or was stored under the key.
      have hentries : ∀ e ∈ table, ∃ field sub text, (field, text) ∈ fields ∧
          KeyForm.read field = .entry key sub ∧ e = (.str sub, .str text) := by
        cases hlookup : entries.lookup key with
        | none =>
          rw [hlookup] at htable
          cases htable
          exact fun e he => absurd he List.not_mem_nil
        | some current =>
          rw [hlookup, Option.getD_some] at htable
          have hcurrent := hinv _ (mem_of_lookup hlookup)
          rw [htable] at hcurrent
          cases hcurrent with
          | keyed hne h => exact h
      refine queryValue_putEntry hinv (.keyed (List.append_ne_nil_of_right_ne_nil _ ?_) ?_)
      · exact List.cons_ne_nil _ _
      · intro e he
        rcases List.mem_append.mp he with he | he
        · exact hentries e he
        · exact ⟨field, sub, text, hfield, hread, List.mem_singleton.mp he⟩
  next => cases h

/-- **One more field** leaves all entries such as the fields say. -/
theorem queryValue_putField {field : String} (hfield : (field, text) ∈ fields)
    (hinv : ∀ e ∈ entries, QueryValue fields e.1 e.2)
    (h : putField entries field (.str text) = .ok entries') :
    ∀ e ∈ entries', QueryValue fields e.1 e.2 := by
  unfold putField at h
  split at h
  next => exact queryValue_putPlain hinv h
  next => exact queryValue_putItem hinv h
  next key sub hread => exact queryValue_putSubEntry hfield hread hinv h

/-- What a bag of raw values holds is the form of one of them. -/
theorem exists_cleaned_of_mem_ofRawEntries {bag : Bag} {v : Value}
    (h : ofRawEntries entries = .ok bag) (hv : (key, v) ∈ bag.entries) :
    ∃ raw, (key, raw) ∈ entries ∧ raw.cleaned key = .ok v := by
  have hinv : Ends (fun b : Bag => ∀ e ∈ b.entries, ∃ raw, (e.1, raw) ∈ entries ∧
      raw.cleaned e.1 = .ok e.2) (fun _ => True) (ofRawEntries entries) := by
    refine Ends.foldlM (fun _ (b : Bag) => ∀ e ∈ b.entries, ∃ raw, (e.1, raw) ∈ entries ∧
      raw.cleaned e.1 = .ok e.2) (fun e he => absurd he List.not_mem_nil) fun _ x b hx hb => ?_
    refine Ends.map (Ends.intro (fun form hform => ?_) fun _ _ => trivial)
    intro e he
    rcases mem_putEntry he with rfl | he
    · exact ⟨x.2, hx, hform⟩
    · exact hb e he
  exact hinv.of_ok h (key, v) hv

/-- **All that a bag has from a query** is such as its fields say. -/
theorem queryValue_of_ofQueryPairs {bag : Bag}
    (h : ofQueryPairs (fields.map fun f => (f.1, .str f.2)) = .ok bag) {v : Value}
    (hv : (key, v) ∈ bag.entries) : QueryValue fields key v := by
  obtain ⟨entries, hread, hbag⟩ := exists_of_bind_ok h
  -- The fields are read one after the other, and the entries stay such as they say.
  have hentries : ∀ e ∈ entries, QueryValue fields e.1 e.2 := by
    have hinv : Ends (fun entries : List (String × Value) =>
        ∀ e ∈ entries, QueryValue fields e.1 e.2) (fun _ => True)
        ((fields.map fun f => (f.1, Value.str f.2)).foldlM
          (fun entries p => putField entries p.1 p.2) []) := by
      refine Ends.foldlM
        (fun _ (entries : List (String × Value)) => ∀ e ∈ entries, QueryValue fields e.1 e.2)
        (fun e he => absurd he List.not_mem_nil) fun _ x b hx hb => ?_
      obtain ⟨f, hf, rfl⟩ := List.mem_map.mp hx
      exact Ends.intro (fun _ hput => queryValue_putField hf hb hput) fun _ _ => trivial
    exact hinv.of_ok hread
  -- Nothing happens to them on their way into the bag.
  obtain ⟨raw, hraw, hclean⟩ := exists_cleaned_of_mem_ofRawEntries hbag hv
  have hvalue : QueryValue fields key raw := hentries (key, raw) hraw
  rw [hvalue.cleaned_eq] at hclean
  cases hclean
  exact hvalue

end Bag

/-! ### Searches for the fields of a query -/

/-- The bag of a query string is the bag of its fields. -/
theorem Source.searchInput_query {text broadKey : String} {bag : Bag}
    (h : Bag.ofQueryPairs ((QueryString.fields text).map fun f => (f.1, .str f.2)) = .ok bag) :
    (Source.query text).searchInput broadKey = .ok bag := by
  show (Bag.ofQueryPairs ((QueryString.fields text).map fun f => (f.1, .str f.2))).mapError
    Failure.refused = .ok bag
  rw [h]
  rfl

/-- A query with a plain field for one column of a pond and a keyed field for the other. -/
def Pond.keyedQuery : String := "name=koi&depth[deep]=3"

namespace Compiler

variable {c : Compiler} {catalog : Catalog} {bag : Bag}

/-- **A search for the fields of a query compares scalars only, unless a keyed field is
meant for a column**: every comparison is well formed, or it is one with a table whose
entries are given by fields `key[sub]` where `key` ends in the name of the column or in the
key of the broad-search parameter. -/
theorem MakesOf.wellFormed_or_of_query {fields : List (String × String)} {result : CompiledSearch}
    (h : c.MakesOf catalog bag result)
    (hbag : Bag.ofQueryPairs (fields.map fun f => (f.1, .str f.2)) = .ok bag) :
    ∃ root, c.registry.find? result.entity = some root ∧ result.table = root.table ∧
      ∀ l ∈ result.predicate.located, ∃ e table, c.registry.filtered? root l.1 = some e ∧
        catalog.table e.table = .ok table ∧
        (l.2.WellFormed (bag.Offers c.settings.broadKey l.2.column)
            (table.isStringLike l.2.column) ∨
          ∃ front key entries,
            (key = front ++ l.2.column ∨ key = front ++ c.settings.broadKey) ∧
            l.2.ComparesTable entries ∧ entries ≠ [] ∧
            ∀ entry ∈ entries, ∃ field sub text, (field, text) ∈ fields ∧
              KeyForm.read field = .entry key sub ∧ entry = (.str sub, .str text)) := by
  obtain ⟨root, hroot, htable, hmade⟩ := h.madeOf
  refine ⟨root, hroot, htable, fun l hl => ?_⟩
  obtain ⟨e, he, table, htable, hcondition⟩ := hmade l hl
  refine ⟨e, table, he, htable, ?_⟩
  have hquery : ∀ w, bag.Offers c.settings.broadKey l.2.column w →
      ∃ front key, (key = front ++ l.2.column ∨ key = front ++ c.settings.broadKey) ∧
        QueryValue fields key w := by
    rintro w ⟨front, hentry | hentry⟩
    · exact ⟨front, _, Or.inl rfl, Bag.queryValue_of_ofQueryPairs hbag hentry⟩
    · exact ⟨front, _, Or.inr rfl, Bag.queryValue_of_ofQueryPairs hbag hentry⟩
  have hkinds : ∀ w, bag.Offers c.settings.broadKey l.2.column w →
      (∃ entries, w = .map entries) ∨ ∀ v ∈ w.singles, v.isScalar = true := by
    intro w hw
    obtain ⟨front, key, -, hvalue⟩ := hquery w hw
    exact hvalue.exists_map_or_isScalar
  rcases hcondition.wellFormed_or hkinds with hwell | ⟨entries, hentries, hcompares⟩
  · exact Or.inl hwell
  · obtain ⟨front, key, hkey, hvalue⟩ := hquery _ hentries
    cases hvalue with
    | keyed hne hfields => exact Or.inr ⟨front, key, entries, hkey, hcompares, hne, hfields⟩

/-- A query with a plain field and a keyed field for the columns of a pond. -/
theorem MakesOf.wellFormed_or_of_query_pond :
    ∃ bag result,
      Pond.compiler.MakesOf Pond.catalog bag result ∧
      Bag.ofQueryPairs ((QueryString.fields Pond.keyedQuery).map fun f => (f.1, .str f.2)) =
        .ok bag ∧
      ∃ root, Pond.registry.find? result.entity = some root ∧ result.table = root.table ∧
        ∀ l ∈ result.predicate.located, ∃ e table, Pond.registry.filtered? root l.1 = some e ∧
          Pond.catalog.table e.table = .ok table ∧
          (l.2.WellFormed (bag.Offers "q" l.2.column) (table.isStringLike l.2.column) ∨
            ∃ front key entries, (key = front ++ l.2.column ∨ key = front ++ "q") ∧
              l.2.ComparesTable entries ∧ entries ≠ [] ∧
              ∀ entry ∈ entries, ∃ field sub text,
                (field, text) ∈ QueryString.fields Pond.keyedQuery ∧
                  KeyForm.read field = .entry key sub ∧ entry = (.str sub, .str text)) := by
  obtain ⟨bag, hbag⟩ := exists_of_toBool
    (x := Bag.ofQueryPairs ((QueryString.fields Pond.keyedQuery).map fun f => (f.1, .str f.2)))
    (by decide +kernel)
  obtain ⟨result, h⟩ := exists_of_toBool (x := Pond.compiler.compile Pond.catalog "Pond"
    (.query Pond.keyedQuery) SearchOptions.plain Pond.clock) (by decide +kernel)
  have hmakes : Pond.compiler.MakesOf Pond.catalog bag result :=
    .compiled (Source.searchInput_query hbag) h
  exact ⟨bag, result, hmakes, hbag, hmakes.wellFormed_or_of_query hbag⟩

/-- **A keyed field is compared with a column**: one with the table as it stands, another
with a pattern made of the text of its table, the name of its entry included. -/
theorem MakesOf.not_scalar_of_query :
    ∃ bag result,
      Pond.compiler.MakesOf Pond.catalog bag result ∧
      Bag.ofQueryPairs ((QueryString.fields "name[first]=koi&depth[deep]=3").map fun f =>
        (f.1, .str f.2)) = .ok bag ∧
      (∃ l ∈ result.predicate.located, l.2.column = "depth" ∧ l.2.comparison = .equal ∧
        l.2.value.isScalar = false) ∧
      ∃ l ∈ result.predicate.located, l.2.column = "name" ∧ l.2.comparison = .like ∧
        l.2.value.text? = some "%f%i%r%s%t%k%o%i%" := by
  obtain ⟨bag, hbag⟩ := exists_of_toBool
    (x := Bag.ofQueryPairs ((QueryString.fields "name[first]=koi&depth[deep]=3").map fun f =>
      (f.1, .str f.2))) (by decide +kernel)
  obtain ⟨result, h, hany⟩ := exists_of_map_ok
    (x := Pond.compiler.compile Pond.catalog "Pond" (.query "name[first]=koi&depth[deep]=3")
      SearchOptions.plain Pond.clock)
    (f := fun s =>
      s.predicate.located.any (fun l => l.2.column == "depth" && l.2.comparison == .equal &&
        !l.2.value.isScalar) &&
      s.predicate.located.any fun l => l.2.column == "name" && l.2.comparison == .like &&
        l.2.value.text? == some "%f%i%r%s%t%k%o%i%")
    (b := true) (by decide +kernel)
  obtain ⟨hequal, hlike⟩ := Bool.and_eq_true_iff.mp hany
  obtain ⟨l, hl, hdepth⟩ := List.any_eq_true.mp hequal
  obtain ⟨l', hl', hname⟩ := List.any_eq_true.mp hlike
  refine ⟨bag, result, .compiled (Source.searchInput_query hbag) h, hbag,
    ⟨l, hl, ?_⟩, l', hl', ?_⟩
  · simpa [and_assoc] using hdepth
  · simpa [and_assoc] using hname

end Compiler

end RelationalSearch
