import Mathlib.Logic.Function.Iterate
import RelationalSearch.Proofs.SchemaCache
import RelationalSearch.Proofs.SmallLetters
import RelationalSearch.Schema.Database

/-!
# Names of types that are made known

A driver is told names of types before its tables are read, and each name becomes known in
small and in capital letters. A form that is known already keeps its type, so what a name
stands for afterwards could depend on which names came first: on the order of the names, on
other names with the same forms, and on what was made known when the driver was read before.

Among ASCII names it does not. All forms of a name have the same small letters
(`RelationalSearch.TypeName.toSmall_of_mem_forms`), and a type that stands for a name is
known by its small letters only. So a form stands for the same type whichever name it came
from, and what a map answers is known in closed form
(`RelationalSearch.TypeMap.find?_register_of_ascii`): as before, or else with the type of the
form itself, if it is a form of one of the names. In this the names are no more than a set, and
so registrations and loads can be repeated and exchanged
(`RelationalSearch.DriverTypes.register_extends`).

One thing can go wrong: no type can stand for a name with a null character in it
(`RelationalSearch.DriverTypes.not_register_null`), and then none of the names becomes known.
-/

namespace RelationalSearch

/-! ### ASCII letters -/

namespace Text

theorem capitalForm_of_ascii {c : Char} (h : c.toNat < 128) :
    capitalForm c = [c.toUpper] ∧ c.toUpper.toLower = c.toLower := by
  have hall : ∀ n < 128, capitalForm (Char.ofNat n) = [(Char.ofNat n).toUpper] ∧
      (Char.ofNat n).toUpper.toLower = (Char.ofNat n).toLower := by
    decide +kernel
  have hc := hall c.toNat h
  rwa [Char.ofNat_toNat] at hc

theorem toLower_toLower (c : Char) : c.toLower.toLower = c.toLower :=
  toLower_invariant (f := Char.toLower) (by decide) c

/-- Whether a text has ASCII characters only. -/
def IsAscii (s : String) : Prop := ∀ c ∈ s.toList, c.toNat < 128

-- Decided along the text, not over all characters.
instance (s : String) : Decidable (IsAscii s) :=
  List.decidableBAll (fun c : Char => c.toNat < 128) s.toList

/-- The small form of an ASCII text has its letters. -/
theorem sameLetters_toSmall {s : String} (h : IsAscii s) : SameLetters (toSmall s) s := by
  rw [SameLetters, toSmall, String.toList_ofList, toSmallChars_of_ascii h, List.map_map]
  exact List.map_congr_left fun c _ => toLower_toLower c

/-- The capital form of an ASCII text has its letters. -/
theorem sameLetters_toCapital {s : String} (h : IsAscii s) : SameLetters (toCapital s) s := by
  rw [SameLetters, toCapital, String.toList_ofList, List.map_flatMap, List.map_eq_flatMap]
  refine List.flatMap_congr fun c hc => ?_
  obtain ⟨hcapital, hsmall⟩ := capitalForm_of_ascii (h c hc)
  rw [hcapital, List.map_singleton, hsmall]

end Text

/-! ### Names of types -/

namespace TypeName

open Text

/-- **A plain name**: ASCII characters, no parenthesis among them, and no white space at the
ends. -/
structure IsPlain (name : String) : Prop where
  ascii : IsAscii name
  unparenthesized : '(' ∉ name.toList ∧ ')' ∉ name.toList
  trimmed : trim name = name

instance (name : String) : Decidable (IsPlain name) :=
  decidable_of_iff
    (IsAscii name ∧ ('(' ∉ name.toList ∧ ')' ∉ name.toList) ∧ trim name = name)
    ⟨fun h => ⟨h.1, h.2.1, h.2.2⟩, fun h => ⟨h.ascii, h.unparenthesized, h.trimmed⟩⟩

/-- The forms in which a name becomes known: in small and in capital letters. -/
def forms (name : String) : List String := [toSmall name, toCapital name]

/-- **All forms of an ASCII name have its small letters.** -/
theorem toSmall_of_mem_forms {name key : String} (h : IsAscii name)
    (hkey : key ∈ forms name) : toSmall key = toSmall name := by
  rcases List.mem_cons.mp hkey with rfl | hkey
  · exact (sameLetters_toSmall h).toSmall_eq
  · rw [List.mem_singleton.mp hkey]
    exact (sameLetters_toCapital h).toSmall_eq

/-- The type that stands for a name is the one that stands for any of its forms. -/
theorem reported_of_mem_forms {name key : String} (h : IsAscii name)
    (hkey : key ∈ forms name) : ColumnType.reported name = ColumnType.reported key :=
  congrArg ColumnType.unrecognized (toSmall_of_mem_forms h hkey).symm

/-- The parts of a text, with the separators between them, are the text. -/
theorem joinWith_splitAtEach (separator : Char) (cs : List Char) :
    joinWith separator (splitAtEach separator cs) = cs := by
  induction cs with
  | nil => rfl
  | cons c rest ih =>
    rw [splitAtEach]
    rcases hparts : splitAtEach separator rest with _ | ⟨part, parts⟩
    · exact absurd hparts (splitAtEach_ne_nil separator rest)
    · rw [hparts] at ih
      split
      next hc =>
        rw [eq_of_beq hc, ← ih]
        rfl
      next =>
        rw [← ih]
        cases parts <;> rfl

theorem withoutArguments_of_not_mem {line : List Char} (h : '(' ∉ line) :
    withoutArguments line = line := by
  have hopened : line.dropWhile (· != '(') = [] :=
    List.dropWhile_eq_nil_iff.mpr fun c hc => bne_iff_ne.mpr fun heq => h (heq ▸ hc)
  simp only [withoutArguments, hopened]
  rfl

/-- A plain name is compared in its small letters. -/
theorem IsPlain.normalized_eq {name : String} (h : IsPlain name) :
    normalized name = toSmall name := by
  have hlines : ∀ line ∈ splitAtEach '\n' name.toList, withoutArguments line = line :=
    fun line hline => withoutArguments_of_not_mem fun hparen =>
      h.unparenthesized.1 (mem_of_mem_splitAtEach hline hparen)
  rw [normalized, List.map_congr_left hlines, List.map_id', joinWith_splitAtEach,
    String.ofList_toList, h.trimmed]

/-- **The type that stands for a plain name has the name in small letters.** -/
theorem IsPlain.typeName_reported {name : String} (h : IsPlain name) :
    (ColumnType.reported name).typeName = toSmall name :=
  (TypeName.normalized_eq (sameLetters_toSmall h.ascii)).trans h.normalized_eq

end TypeName

/-! ### One type map -/

theorem lookup_entry {α : Type} (key other : String) (a : α) (rest : List (String × α)) :
    ((key, a) :: rest).lookup other = if other = key then some a else rest.lookup other := by
  by_cases h : other = key
  · rw [h, List.lookup_cons_self, if_pos rfl]
  · rw [List.lookup_cons, beq_eq_false_iff_ne.mpr h, if_neg h]

namespace TypeMap

variable (m : TypeMap) (name key : String) (names : List String)

theorem find?_learn (new : String) (type : ColumnType) :
    (m.learn new type).find? key = (m.find? key).or (if key = new then some type else none) := by
  rw [learn, knows]
  split
  next hknown =>
    by_cases hkey : key = new
    · obtain ⟨known, hfind⟩ := Option.isSome_iff_exists.mp hknown
      rw [hkey, hfind, Option.some_or]
    · rw [if_neg hkey, Option.or_none]
  next =>
    rw [find?, List.lookup_append, lookup_entry, List.lookup_nil]
    rfl

/-- A name becomes known in both of its forms. -/
theorem find?_registerName :
    (m.registerName name).find? key =
      (m.find? key).or (if key ∈ TypeName.forms name then some (.reported name) else none) := by
  rw [registerName, find?_learn, find?_learn, Option.or_assoc]
  refine congrArg (Option.or _) ?_
  by_cases hsmall : key = Text.toSmall name
  · rw [if_pos hsmall, Option.some_or, if_pos (hsmall ▸ List.mem_cons_self)]
  · rw [if_neg hsmall, Option.none_or]
    exact if_congr (by simp [TypeName.forms, hsmall]) rfl rfl

/-- **What a map answers after names were made known**: as before, or with the type of the
first name that the key is a form of. -/
theorem find?_register :
    (m.register names).find? key = (m.find? key).or (names.findSome? fun name =>
      if key ∈ TypeName.forms name then some (.reported name) else none) := by
  induction names generalizing m with
  | nil => exact Option.or_none.symm
  | cons name rest ih =>
    rw [register, List.foldl_cons, ← register, ih, find?_registerName, Option.or_assoc,
      List.findSome?_cons]
    by_cases hkey : key ∈ TypeName.forms name
    · rw [if_pos hkey, Option.some_or]
    · rw [if_neg hkey, Option.none_or]

/-- **Among ASCII names it does not matter which one a form came from.** -/
theorem find?_register_of_ascii (h : ∀ name ∈ names, Text.IsAscii name) :
    (m.register names).find? key = (m.find? key).or
      (if ∃ name ∈ names, key ∈ TypeName.forms name then some (.reported key) else none) := by
  rw [find?_register]
  refine congrArg (Option.or _) ?_
  induction names with
  | nil => exact (if_neg (by simp)).symm
  | cons name rest ih =>
    obtain ⟨hname, hrest⟩ := List.forall_mem_cons.mp h
    rw [List.findSome?_cons, ih hrest]
    by_cases hkey : key ∈ TypeName.forms name
    · rw [if_pos hkey, TypeName.reported_of_mem_forms hname hkey]
      exact (if_pos ⟨name, List.mem_cons_self, hkey⟩).symm
    · rw [if_neg hkey]
      exact if_congr (by simp [hkey]) rfl rfl

variable {m key names}

theorem learn_of_known {type : ColumnType} (h : m.knows key = true) : m.learn key type = m :=
  if_pos h

/-- Names whose forms are known leave a map as it is. -/
theorem register_of_known
    (h : ∀ name ∈ names, ∀ key ∈ TypeName.forms name, m.knows key = true) :
    m.register names = m := by
  induction names with
  | nil => rfl
  | cons name rest ih =>
    obtain ⟨hname, hrest⟩ := List.forall_mem_cons.mp h
    have hlearned : m.registerName name = m := by
      rw [registerName, learn_of_known (hname _ List.mem_cons_self),
        learn_of_known (hname _ (List.mem_cons_of_mem _ List.mem_cons_self))]
    rw [register, List.foldl_cons, hlearned]
    exact ih hrest

/-- **Making names known again changes nothing.** -/
theorem register_register (m : TypeMap) (names : List String) :
    (m.register names).register names = m.register names := by
  refine register_of_known fun name hname key hkey => ?_
  rw [knows, find?_register, Option.isSome_or, List.isSome_findSome?, Bool.or_eq_true]
  exact Or.inr (List.any_eq_true.mpr ⟨name, hname, by rw [if_pos hkey]; rfl⟩)

/-- **What names add to a type map.** -/
structure ExtendedBy (m : TypeMap) (names : List String) (m' : TypeMap) : Prop where
  /-- What is known keeps its type. -/
  kept : ∀ key type, m.find? key = some type → m'.find? key = some type
  /-- What becomes known are the forms of the names, as far as they are not known. -/
  newly_iff : ∀ key, m.knows key = false ∧ m'.knows key = true ↔
    m.knows key = false ∧ ∃ name ∈ names, key ∈ TypeName.forms name
  /-- It stands for a type without a model, whose name is that name in small letters. -/
  reported : ∀ name ∈ names, ∀ key ∈ TypeName.forms name, m.knows key = false →
    ∃ type, m'.find? key = some type ∧ m'.reports key = true ∧
      type.typeName = Text.toSmall name

/-- **A map is extended by the plain names that are made known to it.** -/
theorem extendedBy_register (h : ∀ name ∈ names, TypeName.IsPlain name) :
    m.ExtendedBy names (m.register names) := by
  have hfind := fun key =>
    m.find?_register_of_ascii key names fun name hname => (h name hname).ascii
  refine ⟨fun key type hkey => ?_, fun key => ?_, fun name hname key hkey hnew => ?_⟩
  · rw [hfind, hkey, Option.some_or]
  · refine and_congr_right fun hnew => ?_
    rw [knows, hfind, Option.isNone_iff_eq_none.mp (Option.isSome_eq_false_iff.mp hnew),
      Option.none_or]
    split
    next hform => exact iff_of_true rfl hform
    next hform => exact iff_of_false Bool.false_ne_true hform
  · have hreported : (m.register names).find? key = some (.reported key) := by
      rw [hfind, Option.isNone_iff_eq_none.mp (Option.isSome_eq_false_iff.mp hnew),
        Option.none_or, if_pos ⟨name, hname, hkey⟩]
    refine ⟨_, hreported, ?_, ?_⟩
    · rw [reports, hreported]
      rfl
    · rw [← TypeName.reported_of_mem_forms (h name hname).ascii hkey]
      exact (h name hname).typeName_reported

end TypeMap

/-! ### The maps of several drivers -/

namespace DriverTypes

variable {d : DriverTypes} {driver : String} {m : TypeMap} {names : List String}

/-- The maps of all drivers, with another one for a driver. -/
def withMap (d : DriverTypes) (driver : String) (m : TypeMap) : DriverTypes :=
  ⟨d.maps.map fun e => if e.1 == driver then (driver, m) else e⟩

theorem lookup_withMap (d : DriverTypes) (driver other : String) (m : TypeMap) :
    (d.withMap driver m).maps.lookup other =
      if other = driver then (d.maps.lookup driver).map fun _ => m else d.maps.lookup other := by
  show (d.maps.map _).lookup other = _
  induction d.maps with
  | nil => rw [List.map_nil, List.lookup_nil, List.lookup_nil, Option.map_none, ite_self]
  | cons e rest ih =>
    obtain ⟨key, known⟩ := e
    rw [List.map_cons]
    by_cases hkey : key = driver
    · rw [if_pos (beq_iff_eq.mpr hkey), lookup_entry, lookup_entry, lookup_entry, ih, hkey,
        if_pos rfl]
      by_cases hother : other = driver
      · rw [if_pos hother, if_pos hother]
        rfl
      · rw [if_neg hother, if_neg hother, if_neg hother, if_neg hother]
    · rw [if_neg (by simpa using hkey), lookup_entry, lookup_entry, lookup_entry, ih,
        if_neg (Ne.symm hkey)]
      by_cases hother : other = driver
      · rw [if_neg (by rw [hother]; exact Ne.symm hkey), if_pos hother, if_pos hother]
      · rw [if_neg hother, if_neg hother]

theorem get_withMap (hdriver : d.get driver = .ok m) (m' : TypeMap) :
    (d.withMap driver m').get driver = .ok m' := by
  have hfound : d.maps.lookup driver = some m := by
    rw [get] at hdriver
    split at hdriver
    next hfound => rw [hfound, Except.ok.inj hdriver]
    next => cases hdriver
  rw [get, lookup_withMap, if_pos rfl, hfound]
  rfl

theorem get_withMap_of_ne {other : String} (h : other ≠ driver) (d : DriverTypes) (m : TypeMap) :
    (d.withMap driver m).get other = d.get other := by
  rw [get, lookup_withMap, if_neg h, get]

/-- Of two maps for one driver the later one counts. -/
theorem withMap_withMap (d : DriverTypes) (driver : String) (m m' : TypeMap) :
    (d.withMap driver m).withMap driver m' = d.withMap driver m' := by
  rw [withMap, withMap, withMap, List.map_map]
  refine congrArg DriverTypes.mk (List.map_congr_left fun e _ => ?_)
  by_cases he : e.1 = driver <;> simp [he]

theorem register_eq (hdriver : d.get driver = .ok m)
    (hnames : names.all ColumnType.canReport = true) :
    d.register driver names = .ok (d.withMap driver (m.register names)) := by
  rw [register, hdriver]
  exact if_pos hnames

/-- **What a registration has done that did not fail.** -/
theorem exists_of_register {d' : DriverTypes} (h : d.register driver names = .ok d') :
    ∃ m, d.get driver = .ok m ∧ names.all ColumnType.canReport = true ∧
      d' = d.withMap driver (m.register names) := by
  rw [register] at h
  split at h
  next => cases h
  next m hdriver =>
    split at h
    next hnames => exact ⟨m, hdriver, hnames, (Except.ok.inj h).symm⟩
    next => cases h

/-- A name that no type can stand for keeps all names from becoming known. -/
theorem register_of_null (hdriver : d.get driver = .ok m)
    (hnames : names.all ColumnType.canReport = false) :
    d.register driver names = .error (.fault .badValue) := by
  rw [register, hdriver]
  exact if_neg (by rw [hnames]; decide)

/-- Registrations with one driver, one after the other. -/
def registerEach (d : DriverTypes) (driver : String) (calls : List (List String)) :
    Except Failure DriverTypes :=
  calls.foldlM (fun d names => d.register driver names) d

theorem registerEach_singleton (d : DriverTypes) (driver : String) (names : List String) :
    d.registerEach driver [names] = d.register driver names :=
  bind_pure _

theorem registerEach_cons (d : DriverTypes) (driver : String) (names : List String)
    (calls : List (List String)) :
    d.registerEach driver (names :: calls) =
      (d.register driver names).bind fun d' => d'.registerEach driver calls := rfl

/-- **Registrations one after the other** leave the map that one registration of all their
names leaves. -/
theorem exists_registerEach {calls : List (List String)} (hdriver : d.get driver = .ok m)
    (hcalls : calls.flatten.all ColumnType.canReport = true) :
    ∃ d', d.registerEach driver calls = .ok d' ∧
      d'.get driver = .ok (m.register calls.flatten) ∧
      ∀ other, other ≠ driver → d'.get other = d.get other := by
  induction calls generalizing d m with
  | nil => exact ⟨d, rfl, hdriver, fun _ _ => rfl⟩
  | cons names rest ih =>
    rw [List.flatten_cons, List.all_append, Bool.and_eq_true] at hcalls
    obtain ⟨d', hlast, hdriver', hothers⟩ := ih (get_withMap hdriver _) hcalls.2
    refine ⟨d', ?_, ?_, fun other hother => ?_⟩
    · rw [registerEach_cons, register_eq hdriver hcalls.1]
      exact hlast
    · rw [hdriver', List.flatten_cons, TypeMap.register, TypeMap.register, TypeMap.register,
        List.foldl_append]
    · rw [hothers other hother, get_withMap_of_ne hother]

theorem registerEach_of_null {calls : List (List String)} (hdriver : d.get driver = .ok m)
    (hcalls : calls.flatten.all ColumnType.canReport = false) :
    d.registerEach driver calls = .error (.fault .badValue) := by
  induction calls generalizing d m with
  | nil => cases hcalls
  | cons names rest ih =>
    rw [registerEach_cons]
    cases hnames : names.all ColumnType.canReport with
    | false => rw [register_of_null hdriver hnames]; rfl
    | true =>
      rw [List.flatten_cons, List.all_append, hnames, Bool.true_and] at hcalls
      rw [register_eq hdriver hnames]
      exact ih (get_withMap hdriver _) hcalls

/-- **All drivers know the same names**, as the same types. -/
def SameTypes (d d' : DriverTypes) : Prop :=
  ∀ driver key, (d.get driver).map (TypeMap.find? · key) =
    (d'.get driver).map (TypeMap.find? · key)

/-- **Registrations of the same ASCII names end the same way**, in whatever order they come
and however often. -/
theorem registerEach_same {calls calls' : List (List String)} (hdriver : d.get driver = .ok m)
    (hascii : ∀ name ∈ calls.flatten, Text.IsAscii name)
    (hsame : ∀ name, name ∈ calls.flatten ↔ name ∈ calls'.flatten) :
    EndsSame SameTypes (d.registerEach driver calls) (d.registerEach driver calls') := by
  have hall : calls.flatten.all ColumnType.canReport =
      calls'.flatten.all ColumnType.canReport := by
    rw [Bool.eq_iff_iff, List.all_eq_true, List.all_eq_true]
    exact forall_congr' fun name => imp_congr_left (hsame name)
  cases hcan : calls.flatten.all ColumnType.canReport with
  | false =>
    rw [registerEach_of_null hdriver hcan, registerEach_of_null hdriver (hall.symm.trans hcan)]
    exact .failure _
  | true =>
    obtain ⟨d₁, hfirst, hdriver₁, hothers₁⟩ := exists_registerEach hdriver hcan
    obtain ⟨d₂, hsecond, hdriver₂, hothers₂⟩ := exists_registerEach hdriver (hall.symm.trans hcan)
    rw [hfirst, hsecond]
    refine .results fun other key => ?_
    by_cases hother : other = driver
    · subst hother
      -- Both maps are given in closed form, in which the names are a set.
      have hforms : (∃ name ∈ calls.flatten, key ∈ TypeName.forms name) ↔
          ∃ name ∈ calls'.flatten, key ∈ TypeName.forms name :=
        exists_congr fun name => and_congr_left' (hsame name)
      have hascii' : ∀ name ∈ calls'.flatten, Text.IsAscii name :=
        fun name hname => hascii name ((hsame name).mpr hname)
      rw [hdriver₁, hdriver₂]
      show Except.ok ((m.register _).find? key) = Except.ok ((m.register _).find? key)
      rw [TypeMap.find?_register_of_ascii _ _ _ hascii,
        TypeMap.find?_register_of_ascii _ _ _ hascii', if_congr hforms rfl rfl]
    · rw [hothers₁ other hother, hothers₂ other hother]

/-- A registration that is repeated leaves everything as it is. -/
theorem register_again {d' : DriverTypes} (h : d.register driver names = .ok d') :
    d'.register driver names = .ok d' := by
  obtain ⟨m, hdriver, hnames, rfl⟩ := exists_of_register h
  rw [register_eq (get_withMap hdriver _) hnames, withMap_withMap, TypeMap.register_register]

end DriverTypes

/-! ### Loads -/

namespace Reading

variable {σ α β : Type}

/-- **A reading that leaves the state as it is**, also when it fails. -/
def Keeps (x : Reading σ α) : Prop := ∀ s, (x.run.run s).2 = s

theorem keeps_pure (a : α) : Keeps (σ := σ) (pure a) := fun _ => rfl

theorem keeps_throw (e : Failure) : Keeps (σ := σ) (α := α) (throw e) := fun _ => rfl

theorem Keeps.bind {x : Reading σ α} {f : α → Reading σ β} (h : Keeps x)
    (hf : ∀ a, Keeps (f a)) : Keeps (x >>= f) := by
  intro s
  have hx := h s
  rw [run_bind]
  rcases hrun : x.run.run s with ⟨answer, next⟩
  rw [hrun] at hx
  cases answer with
  | ok a => exact (hf a next).trans hx
  | error e => exact hx

theorem Keeps.mapM {f : α → Reading σ β} (h : ∀ a, Keeps (f a)) (xs : List α) :
    Keeps (xs.mapM f) := by
  induction xs with
  | nil => exact keeps_pure _
  | cons x xs ih =>
    rw [List.mapM_cons]
    exact (h x).bind fun y => ih.bind fun ys => keeps_pure _

end Reading

/-- Where reading the tables leaves the state as it is, a load leaves it as it is after the
names were made known. -/
theorem Provider.state_list {σ : Type} {p : Provider σ} {driver : String}
    (hread : Reading.Keeps (p.readTables driver)) (hallowed : p.settings.allows driver = true)
    (s : σ) :
    (p.list driver s).2 =
      ((p.introspector.learn driver (p.typeNames driver)).run.run s).2 := by
  rw [list, hallowed, Bool.not_true, if_neg Bool.false_ne_true]
  rcases (p.introspector.learn driver (p.typeNames driver)).run.run s with ⟨answer, next⟩
  cases answer with
  | error e => rfl
  | ok u => exact hread next

/-- A provider that reads a database. -/
def Database.provider (database : Database) (schema : Option String) (settings : Settings)
    (log : Log) : Provider DriverTypes :=
  ⟨database.introspector schema, settings, log⟩

namespace Database

open Reading

variable (database : Database) (schema : Option String) (settings : Settings) (log : Log)
  (driver : String)

theorem keeps_typesOf : Keeps (typesOf driver) := by
  refine Keeps.bind (fun _ => rfl) fun types => ?_
  cases types.get driver with
  | ok m => exact keeps_pure m
  | error e => exact keeps_throw _

theorem keeps_listTables : Keeps ((database.introspector schema).listTables driver) := by
  refine (keeps_typesOf driver).bind fun _ => ?_
  split
  · exact keeps_pure _
  · exact keeps_pure _
  · exact keeps_throw _

theorem keeps_listColumns (table : String) :
    Keeps ((database.introspector schema).listColumns driver table) := by
  refine (keeps_typesOf driver).bind fun types => ?_
  split
  · exact keeps_throw _
  · exact keeps_throw _
  · exact keeps_pure _

/-- Reading the tables of a database teaches its driver nothing. -/
theorem keeps_readTables :
    Keeps ((database.provider schema settings log).readTables driver) := by
  refine (database.keeps_listTables schema driver).bind fun names => ?_
  refine (Keeps.mapM (fun table => ?_) names).bind fun tables => keeps_pure _
  refine (database.keeps_listColumns schema driver table).bind fun columns => ?_
  split
  · exact keeps_pure _
  · exact keeps_throw _

variable {settings driver}

/-- What a driver is taught by one registration. -/
theorem types_learn (names : List String) (types : DriverTypes) :
    (((database.introspector schema).learn driver names).run.run types).2 =
      (types.register driver names).toOption.getD types := by
  have hget : (get : Reading DriverTypes DriverTypes).run.run types = (.ok types, types) := rfl
  rw [introspector, Reading.run_bind, hget]
  dsimp only
  cases types.register driver names <;> rfl

/-- **A load leaves the types of one registration**, whether the tables can be read or not. -/
theorem types_list (hallowed : settings.allows driver = true) (types : DriverTypes) :
    ((database.provider schema settings log).list driver types).2 =
      (types.register driver
        ((database.provider schema settings log).typeNames driver)).toOption.getD types :=
  (Provider.state_list (database.keeps_readTables schema settings log driver) hallowed types).trans
    (database.types_learn schema _ types)

/-- **Loads leave the types of one registration**, however many there are: the next one finds
the names known, or fails as the first one did. -/
theorem types_iterate_list (hallowed : settings.allows driver = true) (types : DriverTypes)
    (k : Nat) :
    (fun types => ((database.provider schema settings log).list driver types).2)^[k + 1] types =
      (types.register driver
        ((database.provider schema settings log).typeNames driver)).toOption.getD types := by
  induction k with
  | zero => exact database.types_list schema log hallowed types
  | succ k ih =>
    rw [Function.iterate_succ_apply', ih]
    refine (database.types_list schema log hallowed _).trans ?_
    cases hfirst : types.register driver
        ((database.provider schema settings log).typeNames driver) with
    | error e => exact congrArg (fun x => (Except.toOption x).getD types) hfirst
    | ok d' =>
      exact congrArg (fun x => (Except.toOption x).getD d') (DriverTypes.register_again hfirst)

end Database

/-! ### Registrations -/

namespace DriverTypes

theorem all_canReport_eq_false_iff {names : List String} :
    names.all ColumnType.canReport = false ↔ ∃ name ∈ names, Char.ofNat 0 ∈ name.toList := by
  simp [ColumnType.canReport]

/-- **Registering plain names only adds, and in no order.**

If one of them holds a null character, this fails and no name becomes known. Else the driver's
map is extended by the forms of the names, and no other driver's map changes. Further names
can be registered before, after or with these, and these more than once: either all these
ways fail, or they leave the same types. Loads of a schema, as many as there are, leave what
one registration leaves. -/
theorem register_extends {d : DriverTypes} {driver : String} {m : TypeMap}
    {ns ms : List String} (hdriver : d.get driver = .ok m)
    (hns : ∀ name ∈ ns, TypeName.IsPlain name) (hms : ∀ name ∈ ms, TypeName.IsPlain name) :
    ((∃ name ∈ ns, Char.ofNat 0 ∈ name.toList) →
      d.register driver ns = .error (.fault .badValue)) ∧
    ((∀ name ∈ ns, Char.ofNat 0 ∉ name.toList) →
      ∃ d' m', d.register driver ns = .ok d' ∧ d'.get driver = .ok m' ∧ m.ExtendedBy ns m' ∧
        ∀ other, other ≠ driver → d'.get other = d.get other) ∧
    EndsSame SameTypes (d.registerEach driver [ns, ms]) (d.registerEach driver [ms, ns]) ∧
    EndsSame SameTypes (d.registerEach driver [ns, ms]) (d.register driver (ns ++ ms)) ∧
    (∀ k, EndsSame SameTypes (d.registerEach driver (List.replicate (k + 1) ns))
      (d.register driver ns)) ∧
    ∀ (database : Database) (schema : Option String) (settings : Settings) (log : Log)
      (k : Nat),
      settings.allows driver = true →
      (database.provider schema settings log).typeNames driver = ns →
        (fun types => ((database.provider schema settings log).list driver types).2)^[k + 1] d =
          (d.register driver ns).toOption.getD d := by
  have hboth : ∀ name ∈ [ns, ms].flatten, Text.IsAscii name := by
    intro name hname
    rw [List.flatten_cons, List.flatten_singleton, List.mem_append] at hname
    exact (hname.elim (hns name) (hms name)).ascii
  have hrepeated : ∀ k name, name ∈ (List.replicate (k + 1) ns).flatten ↔
      name ∈ [ns].flatten := by
    simp
  refine ⟨fun hnull => ?_, fun hnull => ?_, ?_, ?_, fun k => ?_, ?_⟩
  · exact register_of_null hdriver (all_canReport_eq_false_iff.mpr hnull)
  · have hcan : ns.all ColumnType.canReport = true := by
      by_contra h
      obtain ⟨name, hname, hmem⟩ := all_canReport_eq_false_iff.mp (Bool.not_eq_true _ ▸ h)
      exact hnull name hname hmem
    exact ⟨d.withMap driver (m.register ns), m.register ns, register_eq hdriver hcan,
      get_withMap hdriver _, TypeMap.extendedBy_register hns,
      fun other hother => get_withMap_of_ne hother d _⟩
  · exact registerEach_same hdriver hboth fun name => by simp [or_comm]
  · rw [← registerEach_singleton d driver (ns ++ ms)]
    exact registerEach_same hdriver hboth fun name => by simp
  · rw [← registerEach_singleton d driver ns]
    refine registerEach_same hdriver (fun name hname => ?_) (hrepeated k)
    rw [hrepeated, List.flatten_singleton] at hname
    exact (hns name hname).ascii
  · rintro database schema settings log k hallowed rfl
    exact database.types_iterate_list schema log hallowed d k

/-- The types that SQLite and MySQL know from the start. -/
def usual : DriverTypes := ⟨[("sqlite", TypeMap.sqlite), ("mysql", TypeMap.mysql)]⟩

/-- Settings with overrides for two names, one of which MySQL knows. -/
def pointSettings : Settings :=
  { Settings.usual with typeOverrides := [("mysql", [("Point", "float"), ("enum", "string")])] }

/-- These names are made known to MySQL, with a name that has the forms of one of them. -/
theorem register_extends_point :
    usual.get "mysql" = .ok TypeMap.mysql ∧
    (∀ name ∈ ["point", "enum"], TypeName.IsPlain name ∧ Char.ofNat 0 ∉ name.toList) ∧
    (∀ name ∈ ["Point", "double precision"], TypeName.IsPlain name) ∧
    (∃ d' m', usual.register "mysql" ["point", "enum"] = .ok d' ∧ d'.get "mysql" = .ok m' ∧
      TypeMap.mysql.ExtendedBy ["point", "enum"] m' ∧
      ∀ other, other ≠ "mysql" → d'.get other = usual.get other) ∧
    EndsSame SameTypes
      (usual.registerEach "mysql" [["point", "enum"], ["Point", "double precision"]])
      (usual.registerEach "mysql" [["Point", "double precision"], ["point", "enum"]]) ∧
    (fun types => ((Database.provider ⟨[], []⟩ none pointSettings Log.patient).list "mysql"
        types).2)^[3] usual =
      (usual.register "mysql" ["point", "enum"]).toOption.getD usual := by
  have hdriver : usual.get "mysql" = .ok TypeMap.mysql := rfl
  have hplain : ∀ name ∈ ["point", "enum"],
      TypeName.IsPlain name ∧ Char.ofNat 0 ∉ name.toList := by
    decide +kernel
  have hothers : ∀ name ∈ ["Point", "double precision"], TypeName.IsPlain name := by
    decide +kernel
  obtain ⟨-, hextends, hswapped, -, -, hloads⟩ :=
    register_extends hdriver (fun name hname => (hplain name hname).1) hothers
  exact ⟨hdriver, hplain, hothers, hextends fun name hname => (hplain name hname).2, hswapped,
    hloads ⟨[], []⟩ none pointSettings Log.patient 2 (by decide +kernel) (by decide +kernel)⟩

/-- **A plain name with a null character in it is not made known.** -/
theorem not_register_null :
    TypeName.IsPlain "a\x00b" ∧ usual.get "sqlite" = .ok TypeMap.sqlite ∧
      ¬∃ d', usual.register "sqlite" ["a\x00b"] = .ok d' := by
  refine ⟨by decide +kernel, rfl, fun ⟨d', hd'⟩ => ?_⟩
  obtain ⟨-, -, hnull, -⟩ := exists_of_register hd'
  exact absurd hnull (by decide +kernel)

end DriverTypes

end RelationalSearch
