import RelationalSearch.Proofs.Outcome
import RelationalSearch.Schema.Provider

/-!
# What comes of a listing

A provider lists a driver by asking its introspector: to make names of types known, for
the tables, and for the columns of one table after the other. Each of these can fail, and
so can the classification of the columns of a table; the first failure ends the listing.

`RelationalSearch.Provider.Lists` says what comes of a listing, given what the introspector
was asked for and what it answered. To see both, the introspector is replaced by one that
keeps a list of its consultations (`RelationalSearch.Introspector.watched`). It gives the
same answers and goes through the same states (`RelationalSearch.Reading.Watches`), so a
provider with it lists a driver in the same way.
-/

namespace RelationalSearch

/-! ### Watched introspectors -/

/-- What an introspector is asked for, and what it answers. -/
inductive Consultation where
  | learn (driver : String) (names : List String) (answer : Except Failure Unit)
  | tables (driver : String) (answer : Except Failure (List String))
  | columns (driver table : String) (answer : Except Failure (List RawColumn))

/-- Why a consultation failed, if it did. -/
def Consultation.failure? : Consultation → Option Failure
  | learn _ _ (.error cause) | tables _ (.error cause) | columns _ _ (.error cause) => some cause
  | learn _ _ (.ok _) | tables _ (.ok _) | columns _ _ (.ok _) => none

variable {σ α β : Type}

/-- A reading that notes what is asked for and answered. -/
def Reading.noted (entry : Except Failure α → Consultation) (x : Reading σ α) :
    Reading (σ × List Consultation) α :=
  ExceptT.mk fun state =>
    let (answer, next) := x.run.run state.1
    (answer, next, state.2 ++ [entry answer])

/-- An introspector that keeps a list of its consultations. -/
def Introspector.watched (i : Introspector σ) : Introspector (σ × List Consultation) where
  learn driver names := Reading.noted (.learn driver names) (i.learn driver names)
  listTables driver := Reading.noted (.tables driver) (i.listTables driver)
  listColumns driver table := Reading.noted (.columns driver table) (i.listColumns driver table)

/-- A provider with its introspector watched. -/
def Provider.watched (p : Provider σ) : Provider (σ × List Consultation) :=
  ⟨p.introspector.watched, p.settings, p.log⟩

namespace Reading

/-- **Two readings that differ only in what is noted**: the same answer and the same
state, and some more notes, of which something is known together with the answer. -/
def Watches (x : Reading (σ × List Consultation) α) (y : Reading σ α)
    (P : List Consultation → Except Failure α → Prop) : Prop :=
  ∀ s notes, ∃ more,
    x.run.run (s, notes) = ((y.run.run s).1, (y.run.run s).2, notes ++ more) ∧
      P more (y.run.run s).1

theorem run_noted (entry : Except Failure α → Consultation) (x : Reading σ α) (s : σ)
    (notes : List Consultation) :
    (noted entry x).run.run (s, notes) =
      ((x.run.run s).1, (x.run.run s).2, notes ++ [entry (x.run.run s).1]) := rfl

theorem watches_noted (entry : Except Failure α → Consultation) (x : Reading σ α) :
    Watches (noted entry x) x fun more answer => more = [entry answer] :=
  fun s notes => ⟨_, run_noted entry x s notes, rfl⟩

theorem watches_pure (a : α) :
    Watches (σ := σ) (pure a) (pure a) fun more answer => more = [] ∧ answer = .ok a :=
  fun s notes => ⟨[], by rw [List.append_nil]; rfl, rfl, rfl⟩

theorem watches_throw (e : Failure) :
    Watches (σ := σ) (α := α) (throw e) (throw e) fun more answer =>
      more = [] ∧ answer = .error e :=
  fun s notes => ⟨[], by rw [List.append_nil]; rfl, rfl, rfl⟩

/-- One reading after another. -/
theorem run_bind (x : Reading σ α) (f : α → Reading σ β) (s : σ) :
    (x >>= f).run.run s =
      match x.run.run s with
      | (.ok a, next) => (f a).run.run next
      | (.error e, next) => (.error e, next) := by
  rw [ExceptT.run_bind, StateT.run_bind]
  rcases x.run.run s with ⟨answer, next⟩
  cases answer with
  | ok a => rfl
  | error e => rfl

/-- Of two readings one after the other the notes are those of the first, if it fails, and
otherwise those of both. -/
theorem Watches.bind {x : Reading (σ × List Consultation) α} {y : Reading σ α}
    {f : α → Reading (σ × List Consultation) β} {g : α → Reading σ β}
    {P : List Consultation → Except Failure α → Prop}
    {Q : α → List Consultation → Except Failure β → Prop}
    {R : List Consultation → Except Failure β → Prop} (h : Watches x y P)
    (hfg : ∀ a, Watches (f a) (g a) (Q a))
    (hfailed : ∀ more e, P more (.error e) → R more (.error e))
    (hrest : ∀ first a rest answer, P first (.ok a) → Q a rest answer → R (first ++ rest) answer) :
    Watches (x >>= f) (y >>= g) R := by
  intro s notes
  obtain ⟨more, hx, hP⟩ := h s notes
  rw [run_bind, run_bind, hx]
  rcases hy : y.run.run s with ⟨answer, next⟩
  rw [hy] at hP
  cases answer with
  | error e => exact ⟨more, rfl, hfailed more e hP⟩
  | ok a =>
    obtain ⟨rest, hf, hQ⟩ := hfg a next (notes ++ more)
    refine ⟨more ++ rest, ?_, hrest more a rest _ hP hQ⟩
    rw [← List.append_assoc]
    exact hf

end Reading

/-! ### Reading tables -/

namespace Provider

variable (p : Provider σ) (driver : String)

/-- The classified form of the columns of a table. -/
def classify (table : String) (columns : List RawColumn) : Except SearchError Table :=
  classifyTable table driver (p.settings.overridesFor driver) (p.settings.nonStringFor driver)
    columns

/-- **What comes of reading a table**: its columns are not answered, or they are and are
classified, which may fail. -/
inductive TableRead (table : String) : Consultation → Except Failure Table → Prop
  | unread {cause : Failure} :
      TableRead table (.columns driver table (.error cause)) (.error cause)
  | read {columns : List RawColumn} :
      TableRead table (.columns driver table (.ok columns))
        ((p.classify driver table columns).mapError .refused)

/-- **What comes of reading tables**: they are read one after the other, up to the first
that fails. -/
inductive TablesRead : List String → List Consultation → Except Failure (List Table) → Prop
  | all : TablesRead [] [] (.ok [])
  | failed {table : String} {rest : List String} {note : Consultation} {cause : Failure}
      (hread : p.TableRead driver table note (.error cause)) :
      TablesRead (table :: rest) [note] (.error cause)
  | next {table : String} {rest : List String} {note : Consultation} {t : Table}
      {notes : List Consultation} {ending : Except Failure (List Table)}
      (hread : p.TableRead driver table note (.ok t)) (hrest : TablesRead rest notes ending) :
      TablesRead (table :: rest) (note :: notes) (ending.map (t :: ·))

/-- The schema of a driver with some tables; of two tables of one name the later one
counts. -/
def schemaOf (tables : List Table) : Catalog := ⟨driver, tables.foldl Catalog.putTable []⟩

/-- **What comes of reading a schema**: the tables are not listed, or each of them is
read. -/
inductive SchemaRead : List Consultation → Except Failure Catalog → Prop
  | unlisted {cause : Failure} : SchemaRead [.tables driver (.error cause)] (.error cause)
  | listed {names : List String} {notes : List Consultation}
      {ending : Except Failure (List Table)} (hread : p.TablesRead driver names notes ending) :
      SchemaRead (.tables driver (.ok names) :: notes) (ending.map (schemaOf driver))

/-- The lines that are logged when a schema has been read, or could not be read. -/
def readingLines : Except Failure Catalog → List LogLine
  | .ok c => [LogLine.timed ("Schema introspection for " ++ driver), listedLine c]
  | .error _ => [LogLine.timed ("Schema introspection for " ++ driver)]

/-- **What comes of a listing**, with the lines that are logged: the names of types cannot
be made known, or the schema is read. -/
inductive Lists : List Consultation → List LogLine → Except Failure Catalog → Prop
  | unlearned {cause : Failure} :
      Lists [.learn driver (p.typeNames driver) (.error cause)] [] (.error cause)
  | learned {notes : List Consultation} {ending : Except Failure Catalog}
      (hread : p.SchemaRead driver notes ending) :
      Lists (.learn driver (p.typeNames driver) (.ok ()) :: notes) (readingLines driver ending)
        ending

/-! ### Failed consultations -/

section

variable {p driver} {note : Consultation} {notes : List Consultation} {cause : Failure}

theorem TableRead.ending_of_failed {table : String} {ending : Except Failure Table}
    (h : p.TableRead driver table note ending) (hfailed : note.failure? = some cause) :
    ending = .error cause := by
  cases h with
  | unread => cases hfailed; rfl
  | read => cases hfailed

theorem TablesRead.ending_of_failed {names : List String} {ending : Except Failure (List Table)}
    (h : p.TablesRead driver names notes ending) (hnote : note ∈ notes)
    (hfailed : note.failure? = some cause) : ending = .error cause := by
  induction h with
  | all => exact absurd hnote List.not_mem_nil
  | failed hread =>
    rw [← List.mem_singleton.mp hnote] at hread
    cases hread.ending_of_failed hfailed
    rfl
  | next hread hrest ih =>
    rcases List.mem_cons.mp hnote with rfl | hlater
    · cases hread.ending_of_failed hfailed
    · rw [ih hlater]
      rfl

theorem SchemaRead.ending_of_failed {ending : Except Failure Catalog}
    (h : p.SchemaRead driver notes ending) (hnote : note ∈ notes)
    (hfailed : note.failure? = some cause) : ending = .error cause := by
  cases h with
  | unlisted =>
    rw [List.mem_singleton.mp hnote] at hfailed
    cases hfailed
    rfl
  | listed hread =>
    rcases List.mem_cons.mp hnote with rfl | hlater
    · cases hfailed
    · rw [hread.ending_of_failed hlater hfailed]
      rfl

/-- **A failed consultation ends the listing** with its failure. -/
theorem Lists.ending_of_failed {lines : List LogLine} {ending : Except Failure Catalog}
    (h : p.Lists driver notes lines ending) (hnote : note ∈ notes)
    (hfailed : note.failure? = some cause) : ending = .error cause := by
  cases h with
  | unlearned =>
    rw [List.mem_singleton.mp hnote] at hfailed
    cases hfailed
    rfl
  | learned hread =>
    rcases List.mem_cons.mp hnote with rfl | hlater
    · cases hfailed
    · exact hread.ending_of_failed hlater hfailed

end

/-- A listing asks for something. -/
theorem Lists.notes_ne_nil {notes : List Consultation} {lines : List LogLine}
    {ending : Except Failure Catalog} (h : p.Lists driver notes lines ending) : notes ≠ [] := by
  cases h with
  | unlearned => exact List.cons_ne_nil _ _
  | learned => exact List.cons_ne_nil _ _

/-! ### Listings -/

theorem watches_readTable (table : String) :
    Reading.Watches (p.watched.readTable driver table) (p.readTable driver table)
      fun notes ending => ∃ note, notes = [note] ∧ p.TableRead driver table note ending := by
  refine (Reading.watches_noted _ _).bind (Q := fun columns notes ending =>
    notes = [] ∧ ending = (p.classify driver table columns).mapError .refused)
    (fun columns => ?_) ?_ ?_
  · have hclassify : classifyTable table driver (p.watched.settings.overridesFor driver)
        (p.watched.settings.nonStringFor driver) columns = p.classify driver table columns := rfl
    rw [hclassify, classify]
    cases classifyTable table driver (p.settings.overridesFor driver)
        (p.settings.nonStringFor driver) columns with
    | ok t => exact Reading.watches_pure t
    | error e => exact Reading.watches_throw _
  · rintro _ cause rfl
    exact ⟨_, rfl, .unread⟩
  · rintro _ columns _ _ rfl ⟨rfl, rfl⟩
    exact ⟨_, rfl, .read⟩

theorem watches_mapM_readTable (names : List String) :
    Reading.Watches (names.mapM (p.watched.readTable driver)) (names.mapM (p.readTable driver))
      (p.TablesRead driver names) := by
  induction names with
  | nil =>
    intro s notes
    exact ⟨[], by rw [List.append_nil]; rfl, .all⟩
  | cons table rest ih =>
    rw [List.mapM_cons, List.mapM_cons]
    refine (p.watches_readTable driver table).bind (Q := fun t notes ending =>
      ∃ others, p.TablesRead driver rest notes others ∧ ending = others.map (t :: ·))
      (fun t => ?_) ?_ ?_
    · refine ih.bind (Q := fun ts notes ending => notes = [] ∧ ending = .ok (t :: ts))
        (fun ts => Reading.watches_pure _) ?_ ?_
      · exact fun notes cause hrest => ⟨_, hrest, rfl⟩
      · rintro notes ts _ _ hrest ⟨rfl, rfl⟩
        exact ⟨_, by rwa [List.append_nil], rfl⟩
    · rintro _ cause ⟨note, rfl, hread⟩
      exact .failed hread
    · rintro _ t notes _ ⟨note, rfl, hread⟩ ⟨others, hrest, rfl⟩
      exact .next hread hrest

theorem watches_readTables :
    Reading.Watches (p.watched.readTables driver) (p.readTables driver)
      (p.SchemaRead driver) := by
  refine (Reading.watches_noted _ _).bind (Q := fun names notes ending =>
    ∃ tables, p.TablesRead driver names notes tables ∧ ending = tables.map (schemaOf driver))
    (fun names => ?_) ?_ ?_
  · refine (p.watches_mapM_readTable driver names).bind (Q := fun tables notes ending =>
      notes = [] ∧ ending = .ok (schemaOf driver tables))
      (fun tables => Reading.watches_pure _) ?_ ?_
    · exact fun notes cause hread => ⟨_, hread, rfl⟩
    · rintro notes tables _ _ hread ⟨rfl, rfl⟩
      exact ⟨_, by rwa [List.append_nil], rfl⟩
  · rintro _ cause rfl
    exact .unlisted
  · rintro _ names notes _ rfl ⟨tables, hread, rfl⟩
    exact .listed hread

/-- The lines of a schema that has been read, and the schema. -/
theorem narrated_reading (ending : Except Failure Catalog) :
    (do
      let catalog ← Narrated.timed ("Schema introspection for " ++ driver)
        (Narrated.silent ending)
      Narrated.say (listedLine catalog)
      return catalog) = Narrated.of (readingLines driver ending) ending := by
  cases ending with
  | ok c => rfl
  | error e => rfl

/-- A driver that is not allowed is turned away before anything is asked for. -/
theorem list_of_not_allowed (s : σ) (h : p.settings.allows driver = false) :
    p.list driver s = (Narrated.silent (.error (.refused (.unknownTable "*" driver))), s) := by
  rw [list, h]
  rfl

/-- **A watched provider lists a driver in the same way**: nothing is asked for of one that
is not allowed, and of one that is there comes what comes of the consultations. -/
theorem list_watched (s : σ) (notes : List Consultation) :
    ∃ more, p.watched.list driver (s, notes) =
        ((p.list driver s).1, (p.list driver s).2, notes ++ more) ∧
      (p.settings.allows driver = false ∧ more = [] ∨
        p.settings.allows driver = true ∧ ∃ lines ending, p.Lists driver more lines ending ∧
          (p.list driver s).1 = Narrated.of lines ending) := by
  cases hallowed : p.settings.allows driver with
  | false =>
    rw [p.list_of_not_allowed driver s hallowed,
      p.watched.list_of_not_allowed driver (s, notes) hallowed]
    exact ⟨[], by rw [List.append_nil], .inl ⟨rfl, rfl⟩⟩
  | true =>
    have hsettings : p.watched.settings.allows driver = true := hallowed
    have hnames : p.watched.typeNames driver = p.typeNames driver := rfl
    rw [list, list, hsettings, hallowed, hnames]
    simp only [Bool.not_true, Bool.false_eq_true, if_false]
    -- The names of types are noted first, whatever follows.
    rcases hlearn : (p.introspector.learn driver (p.typeNames driver)).run.run s with
      ⟨answer, next⟩
    have hnoted : (p.watched.introspector.learn driver (p.typeNames driver)).run.run (s, notes) =
        (answer, next, notes ++ [.learn driver (p.typeNames driver) answer]) :=
      (Reading.run_noted _ _ s notes).trans (by rw [hlearn])
    rw [hnoted]
    cases answer with
    | error cause => exact ⟨_, rfl, .inr ⟨trivial, _, _, .unlearned, rfl⟩⟩
    | ok u =>
      obtain ⟨more, htables, hread⟩ := p.watches_readTables driver next
        (notes ++ [.learn driver (p.typeNames driver) (.ok ())])
      simp only [htables, narrated_reading]
      refine ⟨_, ?_, .inr ⟨trivial, _, _, .learned hread, rfl⟩⟩
      rw [List.append_assoc]
      rfl

end Provider

end RelationalSearch
