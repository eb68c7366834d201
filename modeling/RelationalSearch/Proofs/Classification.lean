import Mathlib.Data.List.Count
import Mathlib.Data.List.Forall2
import Mathlib.Tactic.Common
import RelationalSearch.Proofs.SmallLetters
import RelationalSearch.Schema.Category
import RelationalSearch.Settings

/-!
# Classification and letter case

How a column is classified depends on its type, on the overrides of its driver and on the
categories that are not compared as texts, all of which somebody writes down. None of it
depends on the case of letters, and an override for one column concerns no other.

Overrides are looked up by names in small letters, and what is found is the last that has been
written for such a name (`RelationalSearch.Settings.lookup_overridesFor`). As long as no two
keys differ in case alone, this is the only one, and the order of the overrides does not
matter either. The main statement is `RelationalSearch.Settings.classified_stable`.
-/

namespace RelationalSearch

open Text

namespace Settings

/-! ### Looking up overrides -/

/-- The overrides of a driver as they have been written down. -/
def writtenOverrides (s : Settings) (driver : String) : List (String × String) :=
  (s.typeOverrides.lookup driver).getD []

/-- What overrides say of a name in small letters, one after the other. -/
def saidOf (written : List (String × String)) (name : String) : List String :=
  written.filterMap fun e => if toSmall e.1 = name then some (toSmall e.2) else none

theorem lookup_putText (table : List (String × String)) (key value name : String) :
    (putText table key value).lookup name =
      if name = key then some value else table.lookup name := by
  induction table with
  | nil =>
    rw [putText, List.lookup_cons, List.lookup_nil]
    by_cases h : name = key
    · rw [if_pos h, h, BEq.rfl]
    · rw [if_neg h, beq_false_of_ne h]
  | cons e rest ih =>
    rw [putText]
    by_cases hkey : e.1 = key
    · rw [if_pos (beq_of_eq hkey), List.lookup_cons, List.lookup_cons, hkey]
      by_cases h : name = key
      · rw [if_pos h, h, BEq.rfl]
      · rw [if_neg h, beq_false_of_ne h]
    · rw [if_neg (by simpa using hkey), List.lookup_cons, List.lookup_cons, ih]
      by_cases h : name = key
      · have hother : (name == e.1) = false := beq_false_of_ne fun heq => hkey (heq ▸ h)
        rw [hother, if_pos h]
      · rw [if_neg h, if_neg h]

/-- **What is found for a name is the last that has been written for it.** -/
theorem lookup_overridesFor (s : Settings) (driver name : String) :
    (s.overridesFor driver).lookup name = (saidOf (s.writtenOverrides driver) name).getLast? := by
  suffices hfrom : ∀ (entries table : List (String × String)),
      (entries.foldl (fun table e => putText table (toSmall e.1) (toSmall e.2)) table).lookup
        name = (saidOf entries name).getLast?.or (table.lookup name) by
    have h := hfrom (s.writtenOverrides driver) []
    rwa [List.lookup_nil, Option.or_none] at h
  intro entries
  induction entries with
  | nil => exact fun _ => rfl
  | cons e rest ih =>
    intro table
    rw [List.foldl_cons, ih, lookup_putText, saidOf, saidOf, List.filterMap_cons]
    by_cases h : toSmall e.1 = name
    · rw [if_pos h, if_pos h.symm]
      cases hlater : (rest.filterMap
        fun e => if toSmall e.1 = name then some (toSmall e.2) else none).getLast? <;>
        simp only [List.getLast?_cons, hlater, Option.getD_none, Option.getD_some, Option.or_some,
          Option.some_or]
    · rw [if_neg h, if_neg (Ne.symm h)]

/-- What overrides say of a name does not depend on the case of letters. -/
theorem saidOf_congr {written written' : List (String × String)}
    (h : List.Forall₂ (fun e e' => SameLetters e.1 e'.1 ∧ SameLetters e.2 e'.2) written written')
    (name : String) : saidOf written name = saidOf written' name := by
  induction h with
  | nil => rfl
  | cons he _ ih =>
    simp only [saidOf] at ih ⊢
    rw [List.filterMap_cons, List.filterMap_cons, ih, he.1.toSmall_eq, he.2.toSmall_eq]

/-- If no two keys differ in case alone, there is one thing at most that is said of a name. -/
theorem length_saidOf_le {written : List (String × String)}
    (h : (written.map fun e => toSmall e.1).Nodup) (name : String) :
    (saidOf written name).length ≤ 1 := by
  have hcount : (saidOf written name).length = (written.map fun e => toSmall e.1).count name := by
    rw [saidOf, List.length_filterMap_eq_countP, List.count, List.countP_map]
    refine List.countP_congr fun e _ => ?_
    by_cases hname : toSmall e.1 = name <;> simp [hname]
  rw [hcount]
  exact List.nodup_iff_count_le_one.mp h name

/-- An override says nothing of names other than its key. -/
theorem saidOf_putText_of_ne {key name : String} (h : name ≠ toSmall key)
    (written : List (String × String)) (value : String) :
    saidOf (putText written key value) name = saidOf written name := by
  have hkey : ∀ v : String, (if toSmall key = name then some (toSmall v) else none) = none :=
    fun v => if_neg (Ne.symm h)
  induction written with
  | nil =>
    rw [putText, saidOf, List.filterMap_cons, hkey]
    rfl
  | cons e rest ih =>
    rw [putText]
    split
    · rename_i heq
      rw [saidOf, saidOf, List.filterMap_cons, List.filterMap_cons, eq_of_beq heq, hkey, hkey]
    · simp only [saidOf] at ih ⊢
      rw [List.filterMap_cons, List.filterMap_cons, ih]

/-- It says something of its key. -/
theorem saidOf_putText_ne_nil (written : List (String × String)) (key value : String) :
    saidOf (putText written key value) (toSmall key) ≠ [] := by
  refine List.ne_nil_of_mem (List.mem_filterMap.mpr ⟨(key, value), ?_, if_pos rfl⟩)
  induction written with
  | nil => exact List.mem_singleton.mpr rfl
  | cons e rest ih =>
    rw [putText]
    split
    · exact List.mem_cons_self
    · exact List.mem_cons_of_mem _ ih

/-! ### Settings that differ in the case of letters -/

/-- Overrides that differ at most in the case of letters, and in their order. -/
def SameOverrides (written written' : List (String × String)) : Prop :=
  ∃ reordered, written.Perm reordered ∧
    List.Forall₂ (fun e e' => SameLetters e.1 e'.1 ∧ SameLetters e.2 e'.2) reordered written'

/-- **Settings that differ, for a driver, at most in the case of letters**: in the keys and the
values of its overrides and in the categories that are not compared as texts. -/
structure SameUpToCase (s s' : Settings) (driver : String) : Prop where
  overrides : SameOverrides (s.writtenOverrides driver) (s'.writtenOverrides driver)
  nonString : List.Forall₂ SameLetters (s.nonStringFor driver) (s'.nonStringFor driver)

/-- No two keys of a driver's overrides differ in case alone. -/
def KeysApart (s : Settings) (driver : String) : Prop :=
  ((s.writtenOverrides driver).map fun e => toSmall e.1).Nodup

section SameUpToCase

variable {s s' : Settings} {driver : String}

theorem SameUpToCase.lookup_eq (h : s.SameUpToCase s' driver) (hkeys : s.KeysApart driver)
    (name : String) :
    (s'.overridesFor driver).lookup name = (s.overridesFor driver).lookup name := by
  obtain ⟨reordered, hperm, hcase⟩ := h.overrides
  have hsaid : (saidOf (s.writtenOverrides driver) name).Perm
      (saidOf (s'.writtenOverrides driver) name) := by
    rw [← saidOf_congr hcase]
    exact hperm.filterMap _
  have hlength := length_saidOf_le hkeys name
  rw [lookup_overridesFor, lookup_overridesFor]
  match hold : saidOf (s.writtenOverrides driver) name with
  | [] =>
    rw [hold] at hsaid
    rw [hsaid.nil_eq]
  | [value] =>
    rw [hold] at hsaid
    rw [List.perm_singleton.mp hsaid.symm]
  | _ :: _ :: _ =>
    rw [hold] at hlength
    exact absurd hlength (by simp)

theorem SameUpToCase.nonString_eq (h : s.SameUpToCase s' driver) :
    (s'.nonStringFor driver).map toSmall = (s.nonStringFor driver).map toSmall := by
  have hall : ∀ {names names' : List String}, List.Forall₂ SameLetters names names' →
      names'.map toSmall = names.map toSmall := by
    intro names names' h
    induction h with
    | nil => rfl
    | cons hcase _ ih => rw [List.map_cons, List.map_cons, hcase.toSmall_eq, ih]
  exact hall h.nonString

end SameUpToCase

/-! ### Settings with one more override -/

/-- **Settings that have, for a driver, one more override.** If the key is there already, it
gets another value. -/
structure Gains (s s' : Settings) (driver key value : String) : Prop where
  overrides : s'.writtenOverrides driver = putText (s.writtenOverrides driver) key value
  nonString : s'.nonStringFor driver = s.nonStringFor driver

section Gains

variable {s s' : Settings} {driver key value : String}

theorem Gains.lookup_of_ne (h : s.Gains s' driver key value) {name : String}
    (hname : name ≠ toSmall key) :
    (s'.overridesFor driver).lookup name = (s.overridesFor driver).lookup name := by
  rw [lookup_overridesFor, lookup_overridesFor, h.overrides, saidOf_putText_of_ne hname]

theorem Gains.exists_lookup (h : s.Gains s' driver key value) :
    ∃ category, (s'.overridesFor driver).lookup (toSmall key) = some category := by
  rw [lookup_overridesFor, h.overrides]
  exact ⟨_, List.getLast?_eq_some_getLast (saidOf_putText_ne_nil _ key value)⟩

end Gains

end Settings

/-! ### Columns -/

/-- **Columns that differ at most in the case of letters** of the names of their types. -/
structure RawColumn.SameUpToCase (c c' : RawColumn) : Prop where
  name : c'.name = c.name
  type : ∃ text text', c.type = .named text ∧ c'.type = .named text' ∧ SameLetters text text'

/-- A column whose type is known by a name that is not empty and has no point. -/
def RawColumn.IsPlain (c : RawColumn) : Prop :=
  ∃ text, c.type = .named text ∧ text ≠ "" ∧ '.' ∉ text.toList

/-- Categories depend on what is found for names, and not on the case of letters. -/
theorem categorize_congr {table : String} {c c' : RawColumn}
    {overrides overrides' : List (String × String)} (hcase : c.SameUpToCase c')
    (hlookup : ∀ name, overrides'.lookup name = overrides.lookup name) :
    categorize table c' overrides' = categorize table c overrides := by
  obtain ⟨text, text', htype, htype', hletters⟩ := hcase.type
  have htypeName : c'.type.typeName = c.type.typeName := by
    rw [htype, htype']
    exact (TypeName.normalized_eq hletters).symm
  have hown : ownCategory table c' = ownCategory table c := by
    rw [ownCategory, ownCategory, htypeName, hcase.name, htype, htype']
  rw [categorize, categorize, hlookup, hlookup, hcase.name, htypeName, hown]

/-- What is found for other names does not matter. -/
theorem categorize_of_lookup {table : String} {c : RawColumn}
    {overrides overrides' : List (String × String)}
    (hcolumn : overrides'.lookup (qualifiedName table c.name) =
      overrides.lookup (qualifiedName table c.name))
    (htype : overrides'.lookup c.type.typeName = overrides.lookup c.type.typeName) :
    categorize table c overrides' = categorize table c overrides := by
  rw [categorize, categorize, hcolumn, htype]

namespace Settings

/-- The classified form of a column by the settings of its driver. -/
def classifiedColumn (s : Settings) (driver table : String) (c : RawColumn) :
    Except SearchError Column :=
  classifyColumn table (s.overridesFor driver) ((s.nonStringFor driver).map toSmall) c

/-- The classified form of a table by the settings of its driver. -/
def classified (s : Settings) (driver table : String) (columns : List RawColumn) :
    Except SearchError Table :=
  classifyTable table driver (s.overridesFor driver) (s.nonStringFor driver) columns

theorem classified_eq (s : Settings) (driver table : String) (columns : List RawColumn) :
    s.classified driver table columns =
      (columns.mapM (s.classifiedColumn driver table)).map (Table.ofColumns table driver) := rfl

variable {s s' : Settings} {driver table key value : String}

/-- The classified form of a column keeps its name. -/
theorem name_of_classifiedColumn {c : RawColumn} {column : Column}
    (h : s.classifiedColumn driver table c = .ok column) : column.name = c.name := by
  rw [classifiedColumn, classifyColumn] at h
  cases hcategory : categorize table c (s.overridesFor driver) with
  | error e =>
    rw [hcategory] at h
    cases h
  | ok category =>
    rw [hcategory] at h
    cases h
    rfl

theorem SameUpToCase.classifiedColumn_eq (h : s.SameUpToCase s' driver)
    (hkeys : s.KeysApart driver) {c c' : RawColumn} (hcase : c.SameUpToCase c') :
    s'.classifiedColumn driver table c' = s.classifiedColumn driver table c := by
  rw [classifiedColumn, classifiedColumn, classifyColumn, classifyColumn, h.nonString_eq,
    categorize_congr hcase (h.lookup_eq hkeys), hcase.name]

theorem SameUpToCase.classified_eq (h : s.SameUpToCase s' driver) (hkeys : s.KeysApart driver)
    {columns columns' : List RawColumn}
    (hcase : List.Forall₂ RawColumn.SameUpToCase columns columns') :
    s'.classified driver table columns' = s.classified driver table columns := by
  have hall : columns'.mapM (s'.classifiedColumn driver table) =
      columns.mapM (s.classifiedColumn driver table) := by
    induction hcase with
    | nil => rfl
    | cons hc _ ih => rw [List.mapM_cons, List.mapM_cons, h.classifiedColumn_eq hkeys hc, ih]
  rw [Settings.classified_eq, Settings.classified_eq, hall]

/-- An override for a column concerns no column of another name. -/
theorem Gains.classifiedColumn_eq (h : s.Gains s' driver key value) (hkey : '.' ∈ key.toList)
    {c : RawColumn} (hplain : c.IsPlain) (hname : qualifiedName table c.name ≠ toSmall key) :
    s'.classifiedColumn driver table c = s.classifiedColumn driver table c := by
  obtain ⟨text, htype, -, hpoint⟩ := hplain
  -- The name of the type has no point, and so it is not the key.
  have htypeName : c.type.typeName ≠ toSmall key := by
    intro heq
    have hmem := (mem_toSmall_point key).mpr hkey
    rw [← heq, htype] at hmem
    exact hpoint (TypeName.mem_point_of_normalized hmem)
  rw [classifiedColumn, classifiedColumn, classifyColumn, classifyColumn, h.nonString,
    categorize_of_lookup (h.lookup_of_ne hname) (h.lookup_of_ne htypeName)]

/-- A column of which an override speaks has the category that the override gives. -/
theorem Gains.exists_classifiedColumn (h : s.Gains s' driver key value) {c : RawColumn}
    (hname : qualifiedName table c.name = toSmall key) :
    ∃ column, s'.classifiedColumn driver table c = .ok column := by
  obtain ⟨category, hcategory⟩ := h.exists_lookup
  rw [classifiedColumn, classifyColumn, categorize, hname, hcategory]
  exact ⟨_, rfl⟩

/-- Two classified forms of a column of which an override does not speak are the same. -/
def AlikeBeside (table key : String) (column column' : Column) : Prop :=
  column'.name = column.name ∧
    (qualifiedName table column.name ≠ toSmall key → column' = column)

/-- An override takes no column away. -/
theorem Gains.classifiedColumn_of_ok (h : s.Gains s' driver key value) (hkey : '.' ∈ key.toList)
    {c : RawColumn} (hplain : c.IsPlain) {column : Column}
    (hcolumn : s.classifiedColumn driver table c = .ok column) :
    ∃ column', s'.classifiedColumn driver table c = .ok column' ∧
      AlikeBeside table key column column' := by
  have hname := name_of_classifiedColumn hcolumn
  by_cases hspoken : qualifiedName table c.name = toSmall key
  · obtain ⟨column', hcolumn'⟩ := h.exists_classifiedColumn hspoken
    refine ⟨column', hcolumn', (name_of_classifiedColumn hcolumn').trans hname.symm, ?_⟩
    rw [hname]
    exact fun hne => absurd hspoken hne
  · exact ⟨column, (h.classifiedColumn_eq hkey hplain hspoken).trans hcolumn, rfl, fun _ => rfl⟩

theorem Gains.mapM_of_ok (h : s.Gains s' driver key value) (hkey : '.' ∈ key.toList)
    {raws : List RawColumn} (hplain : ∀ c ∈ raws, c.IsPlain) {columns : List Column}
    (hcolumns : raws.mapM (s.classifiedColumn driver table) = .ok columns) :
    ∃ columns', raws.mapM (s'.classifiedColumn driver table) = .ok columns' ∧
      List.Forall₂ (AlikeBeside table key) columns columns' := by
  induction raws generalizing columns with
  | nil =>
    cases hcolumns
    exact ⟨[], rfl, .nil⟩
  | cons c rest ih =>
    rw [List.mapM_cons] at hcolumns
    cases hfirst : s.classifiedColumn driver table c with
    | error e =>
      rw [hfirst] at hcolumns
      cases hcolumns
    | ok column =>
      cases hrest : rest.mapM (s.classifiedColumn driver table) with
      | error e =>
        rw [hfirst, hrest] at hcolumns
        cases hcolumns
      | ok others =>
        rw [hfirst, hrest] at hcolumns
        cases hcolumns
        obtain ⟨column', hcolumn', halike⟩ :=
          h.classifiedColumn_of_ok hkey (hplain c List.mem_cons_self) hfirst
        obtain ⟨others', hothers', hall⟩ :=
          ih (fun x hx => hplain x (List.mem_cons_of_mem _ hx)) hrest
        refine ⟨column' :: others', ?_, .cons halike hall⟩
        rw [List.mapM_cons, hcolumn', hothers']
        rfl

end Settings

/-! ### Tables -/

namespace Table

open Settings

variable {table key : String}

theorem forall₂_putColumn {columns columns' : List Column} {c c' : Column}
    (h : List.Forall₂ (AlikeBeside table key) columns columns')
    (hc : AlikeBeside table key c c') :
    List.Forall₂ (AlikeBeside table key) (putColumn columns c) (putColumn columns' c') := by
  induction h with
  | nil => exact .cons hc .nil
  | cons hx hrest ih =>
    rw [putColumn, putColumn, hx.1, hc.1]
    split
    · exact .cons hc hrest
    · exact .cons hx ih

/-- Tables of columns that are alike have columns that are alike. -/
theorem forall₂_ofColumns {columns columns' : List Column} (driver : String)
    (h : List.Forall₂ (AlikeBeside table key) columns columns') :
    List.Forall₂ (AlikeBeside table key) (ofColumns table driver columns).columns
      (ofColumns table driver columns').columns := by
  suffices hfrom : ∀ before before', List.Forall₂ (AlikeBeside table key) before before' →
      List.Forall₂ (AlikeBeside table key) (columns.foldl putColumn before)
        (columns'.foldl putColumn before') from hfrom [] [] .nil
  induction h with
  | nil => exact fun _ _ hbefore => hbefore
  | cons hc _ ih => exact fun _ _ hbefore => ih _ _ (forall₂_putColumn hbefore hc)

variable {columns columns' : List Column}

/-- Columns that are alike have the same names. -/
theorem map_name_eq (h : List.Forall₂ (AlikeBeside table key) columns columns') :
    columns'.map Column.name = columns.map Column.name := by
  induction h with
  | nil => rfl
  | cons hc _ ih => rw [List.map_cons, List.map_cons, ih, hc.1]

/-- Under a name of which an override does not speak, the same column is found. -/
theorem find?_name_eq (h : List.Forall₂ (AlikeBeside table key) columns columns') {name : String}
    (hname : qualifiedName table name ≠ toSmall key) :
    columns'.find? (fun c => c.name == name) = columns.find? (fun c => c.name == name) := by
  induction h with
  | nil => rfl
  | @cons column _ _ _ hc _ ih =>
    rw [List.find?_cons, List.find?_cons, ih, hc.1]
    by_cases heq : column.name = name
    · rw [hc.2 (by rwa [heq])]
    · rw [beq_false_of_ne heq]

end Table

namespace Settings

/-- **Classification does not depend on the case of letters, and an override for one column
concerns no other.** -/
theorem classified_stable (s : Settings) (driver table : String) (columns : List RawColumn)
    (hplain : ∀ c ∈ columns, c.IsPlain) (hkeys : s.KeysApart driver) :
    (∀ (s' : Settings) (columns' : List RawColumn), s.SameUpToCase s' driver →
      List.Forall₂ RawColumn.SameUpToCase columns columns' →
      s'.classified driver table columns' = s.classified driver table columns) ∧
    (∀ (s' : Settings) (key value : String), s.Gains s' driver key value → '.' ∈ key.toList →
      (∀ c ∈ columns, qualifiedName table c.name ≠ toSmall key →
        s'.classifiedColumn driver table c = s.classifiedColumn driver table c) ∧
      ∀ t, s.classified driver table columns = .ok t →
        ∃ t', s'.classified driver table columns = .ok t' ∧ t'.columnNames = t.columnNames ∧
          ∀ name, qualifiedName table name ≠ toSmall key → t'.column? name = t.column? name) := by
  refine ⟨fun s' columns' h hcase => h.classified_eq hkeys hcase, fun s' key value h hkey =>
    ⟨fun c hc hname => h.classifiedColumn_eq hkey (hplain c hc) hname, fun t ht => ?_⟩⟩
  rw [classified_eq] at ht
  cases hcolumns : columns.mapM (s.classifiedColumn driver table) with
  | error e =>
    rw [hcolumns] at ht
    cases ht
  | ok found =>
    rw [hcolumns] at ht
    cases ht
    obtain ⟨found', hfound', halike⟩ := h.mapM_of_ok hkey hplain hcolumns
    have htable := Table.forall₂_ofColumns driver halike
    refine ⟨Table.ofColumns table driver found', ?_, Table.map_name_eq htable, fun name hname =>
      Table.find?_name_eq htable hname⟩
    rw [classified_eq, hfound']
    rfl

/-- The usual settings with some overrides for one driver. -/
def overriding (written : List (String × String)) : Settings :=
  { usual with typeOverrides := [("main", written)] }

/-- Overrides for a column and for a type. -/
def itemOverrides : List (String × String) := [("Items.Outline", "Binary"), ("money", "Numeric")]

/-- Three columns; the overrides speak of the first one, and of the type of the second one. -/
def itemColumns : List RawColumn :=
  [⟨"outline", .named "shape"⟩, ⟨"price", .named "MONEY(8)"⟩, ⟨"name", .named "varchar"⟩]

/-- The columns are classified as before when the case of letters and the order of the overrides
change, and one more override for the last one leaves the second one alone. -/
theorem classified_stable_items :
    (∀ c ∈ itemColumns, c.IsPlain) ∧ (overriding itemOverrides).KeysApart "main" ∧
      (overriding [("MONEY", "numeric"), ("items.OUTLINE", "BINARY")]).classified "main" "items"
          [⟨"outline", .named "SHAPE"⟩, ⟨"price", .named "Money(8)"⟩, ⟨"name", .named "VarChar"⟩] =
        (overriding itemOverrides).classified "main" "items" itemColumns ∧
      (overriding (itemOverrides ++ [("items.Name", "uuid")])).classifiedColumn "main" "items"
          ⟨"price", .named "MONEY(8)"⟩ =
        (overriding itemOverrides).classifiedColumn "main" "items"
          ⟨"price", .named "MONEY(8)"⟩ := by
  have hplain : ∀ c ∈ itemColumns, c.IsPlain := by
    intro c hc
    simp only [itemColumns, List.mem_cons, List.not_mem_nil, or_false] at hc
    rcases hc with rfl | rfl | rfl
    · exact ⟨"shape", rfl, by decide, by decide⟩
    · exact ⟨"MONEY(8)", rfl, by decide, by decide⟩
    · exact ⟨"varchar", rfl, by decide, by decide⟩
  have hkeys : (overriding itemOverrides).KeysApart "main" := by
    unfold KeysApart
    decide +kernel
  have hcase : (overriding itemOverrides).SameUpToCase
      (overriding [("MONEY", "numeric"), ("items.OUTLINE", "BINARY")]) "main" :=
    ⟨⟨_, List.Perm.swap _ _ _, .cons (by decide) (.cons (by decide) .nil)⟩,
      List.forall₂_same.mpr fun _ _ => rfl⟩
  have hcolumns : List.Forall₂ RawColumn.SameUpToCase itemColumns
      [⟨"outline", .named "SHAPE"⟩, ⟨"price", .named "Money(8)"⟩, ⟨"name", .named "VarChar"⟩] :=
    .cons ⟨rfl, _, _, rfl, rfl, by decide⟩ (.cons ⟨rfl, _, _, rfl, rfl, by decide⟩
      (.cons ⟨rfl, _, _, rfl, rfl, by decide⟩ .nil))
  have hgains : (overriding itemOverrides).Gains
      (overriding (itemOverrides ++ [("items.Name", "uuid")])) "main" "items.Name" "uuid" :=
    ⟨rfl, rfl⟩
  have hstable := classified_stable (overriding itemOverrides) "main" "items" _ hplain hkeys
  exact ⟨hplain, hkeys, hstable.1 _ _ hcase hcolumns,
    (hstable.2 _ _ _ hgains (by decide)).1 _ (by simp [itemColumns]) (by decide +kernel)⟩

end Settings

end RelationalSearch
