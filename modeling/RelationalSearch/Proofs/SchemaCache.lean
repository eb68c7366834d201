import RelationalSearch.Proofs.Listing

/-!
# The cache of schemas

A provider is asked one question after the other, about any drivers, while its
introspector answers as it likes: differently from one reading to the next, or not at all.
Its consultations are watched, which changes none of its answers.

All there is to a call is said once (`RelationalSearch.Provider.of_step`): it finds the
schema of the driver, or it makes an entry for the driver, lists it if that is allowed, and
then puts the schema in the entry or takes the entry back. So no call leaves a listing
under way for the next one to wait for (`RelationalSearch.Provider.Comes.settled`), and what
a provider has of a driver follows from the calls alone: it has the schema with which one
of them loaded the driver, and nothing if none did
(`RelationalSearch.Provider.listing?_stateFrom_iff`).
-/

namespace RelationalSearch

variable {σ : Type}

/-! ### The schema of a driver -/

namespace ProviderState

/-- A state without the notes of an introspector that is watched. -/
def unwatched (state : ProviderState (σ × List Consultation)) : ProviderState σ :=
  ⟨state.introspection.1, state.listings⟩

theorem unwatched_conclude (state : ProviderState (σ × List Consultation)) (driver : String)
    (ending : Except Failure Catalog) :
    (state.conclude driver ending).unwatched = state.unwatched.conclude driver ending := by
  cases ending <;> rfl

/-- **No listing is under way.** -/
def Settled (state : ProviderState σ) : Prop := ∀ driver, state.listing? driver ≠ some .underWay

/-- The entry that a listing leaves behind, by how it ended. -/
def entryOf : Except Failure Catalog → Option Listing
  | .ok c => some (.done c)
  | .error _ => none

theorem introspection_conclude (state : ProviderState σ) (driver : String)
    (ending : Except Failure Catalog) :
    (state.conclude driver ending).introspection = state.introspection := by
  cases ending <;> rfl

theorem listing?_conclude (state : ProviderState σ) (driver : String)
    (ending : Except Failure Catalog) (other : String) :
    (state.conclude driver ending).listing? other =
      if driver = other then entryOf ending else state.listing? other := by
  cases ending with
  | ok c => exact state.listing?_enter driver (.done c) other
  | error e => exact state.listing?_leave driver other

end ProviderState

namespace Provider

variable (p : Provider σ) {driver : String} {state : ProviderState σ}

theorem catalog_of_done {c : Catalog} (h : state.listing? driver = some (.done c)) :
    p.catalog driver state = (pure c, state) := by
  rw [catalog, h]

theorem catalog_of_underWay (h : state.listing? driver = some .underWay) :
    p.catalog driver state = (Narrated.silent (.error (.fault .unfinished)), state) := by
  rw [catalog, h]

/-- How the listing of a driver ends, with a log that may refuse its lines. -/
def listed (driver : String) (s : σ) : Narrated Failure Catalog :=
  (p.list driver s).1.through p.log

/-- Without an entry a driver is listed. -/
theorem catalog_of_none (h : state.listing? driver = none) :
    p.catalog driver state =
      (p.listed driver state.introspection,
        { state.enter driver .underWay with
          introspection := (p.list driver state.introspection).2 }.conclude driver
            (p.listed driver state.introspection).value) := by
  rw [catalog, h]
  rfl

/-- **The entry of a driver after it has been listed**; no other entry changes. -/
theorem listing?_catalog (h : state.listing? driver = none) (other : String) :
    (p.catalog driver state).2.listing? other =
      if driver = other then ProviderState.entryOf (p.listed driver state.introspection).value
      else state.listing? other := by
  rw [p.catalog_of_none h, ProviderState.listing?_conclude]
  by_cases hother : driver = other
  · rw [if_pos hother, if_pos hother]
  · rw [if_neg hother, if_neg hother]
    exact (state.listing?_enter driver .underWay other).trans (if_neg hother)

/-- A listing ends in the same way if it is watched. -/
theorem listed_watched (driver : String) (s : σ × List Consultation) :
    p.watched.listed driver s = p.listed driver s.1 := by
  obtain ⟨more, hlist, -⟩ := p.list_watched driver s.1 s.2
  have hlist' : p.watched.list driver s = _ := hlist
  rw [listed, hlist']
  rfl

/-- **A watched provider has the same schemas.** -/
theorem catalog_watched (driver : String) (state : ProviderState (σ × List Consultation)) :
    (p.watched.catalog driver state).1 = (p.catalog driver state.unwatched).1 ∧
      (p.watched.catalog driver state).2.unwatched = (p.catalog driver state.unwatched).2 := by
  -- The notes are no part of the entries, so both providers find the same.
  have hentry : state.unwatched.listing? driver = state.listing? driver := rfl
  cases h : state.listing? driver with
  | some listing =>
    cases listing with
    | done c =>
      rw [p.watched.catalog_of_done h, p.catalog_of_done (hentry.trans h)]
      exact ⟨rfl, rfl⟩
    | underWay =>
      rw [p.watched.catalog_of_underWay h, p.catalog_of_underWay (hentry.trans h)]
      exact ⟨rfl, rfl⟩
  | none =>
    obtain ⟨more, hlist, -⟩ := p.list_watched driver state.introspection.1 state.introspection.2
    have hlist' : p.watched.list driver state.introspection = _ := hlist
    rw [p.watched.catalog_of_none h, p.catalog_of_none (hentry.trans h), p.listed_watched, hlist']
    exact ⟨rfl, ProviderState.unwatched_conclude _ _ _⟩

end Provider

/-! ### Calls -/

/-- A call: a question about a driver. -/
structure SchemaCall where
  driver : String
  question : SchemaQuestion
  deriving DecidableEq, Repr

/-- A call of a watched provider, with all that comes of it. -/
structure SchemaStep (σ : Type) where
  call : SchemaCall
  before : ProviderState (σ × List Consultation)
  /-- The schema of the driver, or why there is none. -/
  schema : Except Failure Catalog
  reply : Except Failure SchemaReply
  after : ProviderState (σ × List Consultation)

namespace SchemaStep

/-- **The introspector is consulted** in a step: there are new notes. -/
def Consults (step : SchemaStep σ) : Prop :=
  step.after.introspection.2 ≠ step.before.introspection.2

/-- **A driver is loaded** in a step: it is the one that is asked about, the introspector
is consulted, and this succeeds. -/
def Loads (step : SchemaStep σ) (driver : String) (c : Catalog) : Prop :=
  step.call.driver = driver ∧ step.Consults ∧ step.schema = .ok c

end SchemaStep

namespace Provider

variable (p : Provider σ)

/-- One call. -/
def step (state : ProviderState (σ × List Consultation)) (call : SchemaCall) : SchemaStep σ where
  call := call
  before := state
  schema := (p.watched.catalog call.driver state).1.value
  reply := (p.watched.ask call.driver call.question state).1.value
  after := (p.watched.ask call.driver call.question state).2

/-- The steps of several calls, one after the other. -/
def stepsFrom (state : ProviderState (σ × List Consultation)) :
    List SchemaCall → List (SchemaStep σ)
  | [] => []
  | call :: rest => p.step state call :: stepsFrom (p.step state call).after rest

/-- What a provider has after several calls. -/
def stateFrom (state : ProviderState (σ × List Consultation)) :
    List SchemaCall → ProviderState (σ × List Consultation)
  | [] => state
  | call :: rest => stateFrom (p.step state call).after rest

/-- How a log lets a listing end: it fails over a line that the log refuses. -/
def onLog (lines : List LogLine) (ending : Except Failure Catalog) : Except Failure Catalog :=
  if lines.any p.log.refuses then .error (.fault .unbegunStyle) else ending

/-- **What comes of a call**, for the schema of its driver and for the state. -/
inductive Comes (driver : String) (before : ProviderState (σ × List Consultation)) :
    Except Failure Catalog → ProviderState (σ × List Consultation) → Prop
  /-- The schema is there. -/
  | found {c : Catalog} (hentry : before.listing? driver = some (.done c)) :
      Comes driver before (.ok c) before
  /-- Somebody else lists the driver. -/
  | waits (hentry : before.listing? driver = some .underWay) :
      Comes driver before (.error (.fault .unfinished)) before
  /-- The driver is not allowed. -/
  | turnedAway {after : ProviderState (σ × List Consultation)}
      (hentry : before.listing? driver = none) (hallowed : p.settings.allows driver = false)
      (hnotes : after.introspection.2 = before.introspection.2)
      (hentries : ∀ other, after.listing? other = before.listing? other) :
      Comes driver before (.error (.refused (.unknownTable "*" driver))) after
  /-- The driver is listed. -/
  | lists {after : ProviderState (σ × List Consultation)} {notes : List Consultation}
      {lines : List LogLine} {ending : Except Failure Catalog}
      (hentry : before.listing? driver = none) (hallowed : p.settings.allows driver = true)
      (hlists : p.Lists driver notes lines ending)
      (hnotes : after.introspection.2 = before.introspection.2 ++ notes)
      (hentries : ∀ other, after.listing? other =
        if driver = other then ProviderState.entryOf (p.onLog lines ending)
        else before.listing? other) :
      Comes driver before (p.onLog lines ending) after

variable (state : ProviderState (σ × List Consultation)) (call : SchemaCall)

theorem of_step :
    p.Comes call.driver state (p.step state call).schema (p.step state call).after := by
  show p.Comes call.driver state (p.watched.catalog call.driver state).1.value
    (p.watched.catalog call.driver state).2
  cases hentry : state.listing? call.driver with
  | some listing =>
    cases listing with
    | done c =>
      rw [p.watched.catalog_of_done hentry]
      exact .found hentry
    | underWay =>
      rw [p.watched.catalog_of_underWay hentry]
      exact .waits hentry
  | none =>
    have hentries := p.watched.listing?_catalog hentry
    obtain ⟨more, hlist, hcase⟩ :=
      p.list_watched call.driver state.introspection.1 state.introspection.2
    have hlist' : p.watched.list call.driver state.introspection = _ := hlist
    have hnotes : (p.watched.catalog call.driver state).2.introspection.2 =
        state.introspection.2 ++ more := by
      rw [p.watched.catalog_of_none hentry, ProviderState.introspection_conclude, hlist']
    have hschema : (p.watched.catalog call.driver state).1 =
        p.listed call.driver state.introspection.1 := by
      rw [p.watched.catalog_of_none hentry, p.listed_watched]
    rw [p.listed_watched, listed] at hentries
    rw [hschema, listed]
    rcases hcase with ⟨hallowed, rfl⟩ | ⟨hallowed, lines, ending, hlists, hnarrated⟩
    · rw [p.list_of_not_allowed call.driver _ hallowed] at hentries ⊢
      refine .turnedAway hentry hallowed (by rw [hnotes, List.append_nil]) fun other => ?_
      rw [hentries other]
      by_cases hother : call.driver = other
      · rw [if_pos hother, ← hother, hentry]
        rfl
      · rw [if_neg hother]
    · rw [hnarrated, Narrated.value_through] at hentries ⊢
      exact .lists hentry hallowed hlists hnotes hentries

section

variable {p} {driver : String} {before after : ProviderState (σ × List Consultation)}
  {schema : Except Failure Catalog}

/-- **When the introspector is consulted.** -/
theorem Comes.consults_iff (h : p.Comes driver before schema after) :
    after.introspection.2 ≠ before.introspection.2 ↔
      p.settings.allows driver = true ∧ before.listing? driver = none := by
  cases h with
  | found hentry => simp [hentry]
  | waits hentry => simp [hentry]
  | turnedAway hentry hallowed hnotes => simp [hnotes, hallowed]
  | lists hentry hallowed hlists hnotes =>
    rw [hnotes]
    simpa [hentry, hallowed] using hlists.notes_ne_nil

/-- **What is consulted is a listing.** -/
theorem Comes.of_consults (h : p.Comes driver before schema after)
    (hconsults : after.introspection.2 ≠ before.introspection.2) :
    ∃ notes lines ending, after.introspection.2 = before.introspection.2 ++ notes ∧
      p.Lists driver notes lines ending ∧ schema = p.onLog lines ending := by
  cases h with
  | found => exact absurd rfl hconsults
  | waits => exact absurd rfl hconsults
  | turnedAway _ _ hnotes => exact absurd hnotes hconsults
  | lists _ _ hlists hnotes => exact ⟨_, _, _, hnotes, hlists, rfl⟩

/-- **No call leaves a listing under way.** -/
theorem Comes.settled (h : p.Comes driver before schema after) (hbefore : before.Settled) :
    after.Settled := by
  intro other
  cases h with
  | found => exact hbefore other
  | waits => exact hbefore other
  | turnedAway _ _ _ hentries =>
    rw [hentries]
    exact hbefore other
  | lists _ _ _ _ hentries =>
    rw [hentries]
    split
    · unfold ProviderState.entryOf
      split <;> simp
    · exact hbefore other

/-- **The entries after a call** are those before it, and the schema that it has loaded. -/
theorem Comes.done_iff (h : p.Comes driver before schema after) {other : String} {c : Catalog} :
    after.listing? other = some (.done c) ↔
      before.listing? other = some (.done c) ∨
        driver = other ∧ after.introspection.2 ≠ before.introspection.2 ∧ schema = .ok c := by
  have hconsults := h.consults_iff
  cases h with
  | found => simp
  | waits => simp
  | turnedAway _ _ _ hentries => simp [hentries]
  | @lists _ _ lines ending hentry hallowed hlists hnotes hentries =>
    rw [hentries]
    by_cases hother : driver = other
    · -- The driver had no entry, so what it has now is what has been loaded.
      have hentryOf : ProviderState.entryOf (p.onLog lines ending) = some (.done c) ↔
          p.onLog lines ending = .ok c := by
        cases p.onLog lines ending <;> simp [ProviderState.entryOf]
      rw [if_pos hother, ← hother, hentry, hentryOf, hconsults]
      simp [hallowed, hentry]
    · simp [hother]

/-- **A failed call takes back what it has entered.** -/
theorem Comes.of_failed (h : p.Comes driver before schema after) (hbefore : before.Settled)
    {failure : Failure} (hschema : schema = .error failure) :
    (∀ other, after.listing? other = before.listing? other) ∧ after.listing? driver = none := by
  cases h with
  | found => cases hschema
  | waits hentry => exact absurd hentry (hbefore driver)
  | turnedAway hentry _ _ hentries => exact ⟨hentries, (hentries driver).trans hentry⟩
  | lists hentry _ _ _ hentries =>
    rw [hschema] at hentries
    refine ⟨fun other => ?_, (hentries driver).trans (if_pos rfl)⟩
    rw [hentries]
    by_cases hother : driver = other
    · rw [if_pos hother, ← hother, hentry]
      rfl
    · rw [if_neg hother]

/-- A call that finds a schema answers from it. -/
theorem Comes.schema_of_done (h : p.Comes driver before schema after) {c : Catalog}
    (hdone : before.listing? driver = some (.done c)) : schema = .ok c := by
  cases h with
  | found hentry =>
    cases hentry.symm.trans hdone
    rfl
  | waits hentry => cases hentry.symm.trans hdone
  | turnedAway hentry => cases hentry.symm.trans hdone
  | lists hentry => cases hentry.symm.trans hdone

/-- A driver that is not allowed and not there is refused. -/
theorem Comes.schema_of_not_allowed (h : p.Comes driver before schema after)
    (hentry : before.listing? driver = none) (hnot : p.settings.allows driver = false) :
    schema = .error (.refused (.unknownTable "*" driver)) := by
  cases h with
  | found hdone => cases hentry.symm.trans hdone
  | waits hwaits => cases hentry.symm.trans hwaits
  | turnedAway => rfl
  | lists _ hallowed => cases hnot.symm.trans hallowed

end

/-! ### Several calls -/

theorem settled_stateFrom (hsettled : state.Settled) (calls : List SchemaCall) :
    (p.stateFrom state calls).Settled := by
  induction calls generalizing state with
  | nil => exact hsettled
  | cons call rest ih => exact ih _ ((p.of_step state call).settled hsettled)

/-- **What a provider has after several calls** is what it had, and what has been loaded
in one of them. -/
theorem listing?_stateFrom_iff (calls : List SchemaCall) {driver : String} {c : Catalog} :
    (p.stateFrom state calls).listing? driver = some (.done c) ↔
      state.listing? driver = some (.done c) ∨
        ∃ step ∈ p.stepsFrom state calls, step.Loads driver c := by
  -- The induction is on the calls, for all states at once, as every call leaves another.
  induction calls generalizing state with
  | nil => simp [stateFrom, stepsFrom]
  | cons call rest ih =>
    rw [stateFrom, stepsFrom, ih, (p.of_step state call).done_iff, or_assoc,
      List.exists_mem_cons_iff]
    rfl

theorem stateFrom_append (calls : List SchemaCall) (call : SchemaCall) :
    p.stateFrom state (calls ++ [call]) = (p.step (p.stateFrom state calls) call).after := by
  induction calls generalizing state with
  | nil => rfl
  | cons first rest ih => exact ih (p.step state first).after

/-- What is loaded is allowed. -/
theorem allows_of_loads {calls : List SchemaCall} {step : SchemaStep σ} {driver : String}
    {c : Catalog} (hstep : step ∈ p.stepsFrom state calls) (h : step.Loads driver c) :
    p.settings.allows driver = true := by
  induction calls generalizing state with
  | nil => exact absurd hstep List.not_mem_nil
  | cons call rest ih =>
    rcases List.mem_cons.mp hstep with rfl | hrest
    · rw [← h.1]
      exact ((p.of_step state call).consults_iff.mp h.2.1).1
    · exact ih (p.step state call).after hrest

/-! ### Replies -/

theorem value_ask {τ : Type} (p : Provider τ) (driver : String) (question : SchemaQuestion)
    (state : ProviderState τ) :
    (p.ask driver question state).1.value =
      ((p.catalog driver state).1.value.mapError (question.failure driver ·)).bind fun c =>
        (question.answer p.settings.broadKey c).mapError .refused := by
  simp [ask]

theorem reply_step :
    (p.step state call).reply =
      ((p.step state call).schema.mapError (call.question.failure call.driver ·)).bind fun c =>
        (call.question.answer p.settings.broadKey c).mapError .refused :=
  value_ask p.watched call.driver call.question state

/-- Watching changes no answer and nothing of what a provider has. -/
theorem step_unwatched :
    (p.step state call).reply = (p.ask call.driver call.question state.unwatched).1.value ∧
      (p.step state call).after.unwatched =
        (p.ask call.driver call.question state.unwatched).2 := by
  obtain ⟨hschema, hstate⟩ := p.catalog_watched call.driver state
  refine ⟨?_, hstate⟩
  rw [reply_step, value_ask, ← hschema]
  rfl

theorem stateFrom_unwatched (calls : List SchemaCall) :
    (p.stateFrom state calls).unwatched =
      calls.foldl (fun state call => (p.ask call.driver call.question state).2)
        state.unwatched := by
  induction calls generalizing state with
  | nil => rfl
  | cons call rest ih =>
    rw [stateFrom, ih, (p.step_unwatched state call).2]
    rfl

/-! ### Runs -/

/-- The state of a watched provider that has not been asked anything. -/
def fresh (start : σ) : ProviderState (σ × List Consultation) := ⟨(start, []), []⟩

/-- The steps of several calls of a provider that has not been asked anything. -/
def history (start : σ) (calls : List SchemaCall) : List (SchemaStep σ) :=
  p.stepsFrom (fresh start) calls

/-- The call that comes after several others. -/
def callAfter (start : σ) (earlier : List SchemaCall) (call : SchemaCall) : SchemaStep σ :=
  p.step (p.stateFrom (fresh start) earlier) call

variable (start : σ) (earlier : List SchemaCall)

theorem comes_callAfter :
    p.Comes call.driver (p.callAfter start earlier call).before
      (p.callAfter start earlier call).schema (p.callAfter start earlier call).after :=
  p.of_step (p.stateFrom (fresh start) earlier) call

theorem settled_before : (p.callAfter start earlier call).before.Settled := by
  refine p.settled_stateFrom (fresh start) (fun driver h => ?_) earlier
  cases h

/-- **The entries are what has been loaded.** -/
theorem listing?_before_iff {driver : String} {c : Catalog} :
    (p.callAfter start earlier call).before.listing? driver = some (.done c) ↔
      ∃ step ∈ p.history start earlier, step.Loads driver c := by
  refine (p.listing?_stateFrom_iff (fresh start) earlier).trans (or_iff_right fun h => ?_)
  cases h

theorem listing?_before_eq_none_iff {driver : String} :
    (p.callAfter start earlier call).before.listing? driver = none ↔
      ¬∃ step ∈ p.history start earlier, ∃ c, step.Loads driver c := by
  constructor
  · rintro hnone ⟨step, hstep, c, hloads⟩
    have hdone := (p.listing?_before_iff call start earlier).mpr ⟨step, hstep, hloads⟩
    cases hnone.symm.trans hdone
  · intro hnot
    cases hentry : (p.callAfter start earlier call).before.listing? driver with
    | none => rfl
    | some listing =>
      cases listing with
      | underWay => exact absurd hentry (p.settled_before call start earlier driver)
      | done c =>
        obtain ⟨step, hstep, hloads⟩ := (p.listing?_before_iff call start earlier).mp hentry
        exact absurd ⟨step, hstep, c, hloads⟩ hnot

/-- **A driver that has been loaded keeps its schema.** -/
theorem schema_of_loads {step : SchemaStep σ} {c : Catalog}
    (hstep : step ∈ p.history start earlier ++ [p.callAfter start earlier call])
    (hloads : step.Loads call.driver c) : (p.callAfter start earlier call).schema = .ok c := by
  rcases List.mem_append.mp hstep with hearlier | hlast
  · have hentry := (p.listing?_before_iff call start earlier).mpr ⟨step, hearlier, hloads⟩
    exact (p.comes_callAfter call start earlier).schema_of_done hentry
  · rw [← List.mem_singleton.mp hlast]
    exact hloads.2.2

/-- A driver that is not allowed is refused, since it has never been loaded. -/
theorem schema_of_not_allowed (hnot : p.settings.allows call.driver = false) :
    (p.callAfter start earlier call).schema =
      .error (.refused (.unknownTable "*" call.driver)) := by
  refine (p.comes_callAfter call start earlier).schema_of_not_allowed ?_ hnot
  rw [listing?_before_eq_none_iff]
  rintro ⟨step, hstep, c, hloads⟩
  cases hnot.symm.trans (p.allows_of_loads _ hstep hloads)

/-- **The cache of schemas is stable, and failures leave no trace.** After any calls, the
next one consults the introspector just when its driver is allowed and none of the calls
has loaded it. What it is then told makes its schema: a consultation that fails, or columns
that cannot be classified, make the call fail, unless a line of the listing does that the
log refuses. If one of the calls has loaded the driver, or this one does, the answer is that
of the schema with which it was loaded. If the call has no schema it fails and no entry
changes; there is none for the driver, neither a schema nor a listing under way, and another
call on it is again one that consults the introspector, unless the driver is not allowed,
in which case every call on it is refused. No call waits for a listing of another. And a
provider that is not watched answers in the same way. -/
theorem cache_stable :
    ((p.callAfter start earlier call).Consults ↔
      p.settings.allows call.driver = true ∧
        ¬∃ step ∈ p.history start earlier, ∃ c, step.Loads call.driver c) ∧
    ((p.callAfter start earlier call).Consults → ∃ notes lines ending,
      (p.callAfter start earlier call).after.introspection.2 =
          (p.callAfter start earlier call).before.introspection.2 ++ notes ∧
        p.Lists call.driver notes lines ending ∧
        (∀ note ∈ notes, ∀ cause, note.failure? = some cause → ending = .error cause) ∧
        (p.callAfter start earlier call).schema =
          if lines.any p.log.refuses then .error (.fault .unbegunStyle) else ending) ∧
    (∀ step ∈ p.history start earlier ++ [p.callAfter start earlier call],
      ∀ c, step.Loads call.driver c →
        (p.callAfter start earlier call).schema = .ok c ∧
          (p.callAfter start earlier call).reply =
            (call.question.answer p.settings.broadKey c).mapError .refused) ∧
    (∀ failure, (p.callAfter start earlier call).schema = .error failure →
      (p.callAfter start earlier call).reply =
          .error (call.question.failure call.driver failure) ∧
        (∀ driver, (p.callAfter start earlier call).after.listing? driver =
          (p.callAfter start earlier call).before.listing? driver) ∧
        (p.callAfter start earlier call).after.listing? call.driver = none ∧
        ∀ question, (p.callAfter start (earlier ++ [call]) ⟨call.driver, question⟩).Consults ↔
          p.settings.allows call.driver = true) ∧
    (p.settings.allows call.driver = false →
      (p.callAfter start earlier call).schema =
        .error (.refused (.unknownTable "*" call.driver))) ∧
    (∀ driver, (p.callAfter start earlier call).before.listing? driver ≠ some .underWay) ∧
    (p.callAfter start earlier call).reply =
      (p.ask call.driver call.question
        (earlier.foldl (fun state call => (p.ask call.driver call.question state).2)
          ⟨start, []⟩)).1.value := by
  have hcomes := p.comes_callAfter call start earlier
  have hsettled := p.settled_before call start earlier
  have hreply : (p.callAfter start earlier call).reply = _ :=
    p.reply_step (p.stateFrom (fresh start) earlier) call
  refine ⟨?_, fun hconsults => ?_, fun step hstep c hloads => ?_, fun failure hfailure => ?_,
    p.schema_of_not_allowed call start earlier, hsettled, ?_⟩
  · rw [← p.listing?_before_eq_none_iff call start earlier]
    exact hcomes.consults_iff
  · obtain ⟨notes, lines, ending, hnotes, hlists, hschema⟩ := hcomes.of_consults hconsults
    exact ⟨notes, lines, ending, hnotes, hlists, fun note hnote cause hfailed =>
      hlists.ending_of_failed hnote hfailed, hschema⟩
  · have hschema := p.schema_of_loads call start earlier hstep hloads
    refine ⟨hschema, hreply.trans ?_⟩
    rw [callAfter] at hschema
    rw [hschema]
    rfl
  · obtain ⟨hentries, hnone⟩ := hcomes.of_failed hsettled hfailure
    refine ⟨hreply.trans ?_, hentries, hnone, ?_⟩
    · rw [callAfter] at hfailure
      rw [hfailure]
      rfl
    · -- The next call finds the state that the failed one has left, without an entry.
      intro question
      have hafter : p.stateFrom (fresh start) (earlier ++ [call]) =
          (p.callAfter start earlier call).after := p.stateFrom_append _ earlier call
      have hnext := (p.of_step (p.callAfter start earlier call).after
        ⟨call.driver, question⟩).consults_iff
      rw [callAfter, hafter]
      exact hnext.trans (and_iff_left hnone)
  · rw [callAfter, (p.step_unwatched _ call).1, p.stateFrom_unwatched _ earlier]
    rfl

/-- A pond, which is reached when it is listed for the second time. -/
def ponds : Provider Nat :=
  ⟨FixedTables.introspector ⟨"main", [("ponds", [⟨"name", .named "varchar"⟩])], 1⟩,
    Settings.usual, Log.patient⟩

/-- A first listing fails, the second has a schema, and then it is not listed again. -/
theorem cache_stable_ponds :
    (ponds.callAfter 0 [] ⟨"main", .schema⟩).reply = .error (.fault .noConnection) ∧
      (ponds.callAfter 0 [] ⟨"main", .schema⟩).after.listing? "main" = none ∧
      (ponds.callAfter 0 [⟨"main", .schema⟩] ⟨"main", .table "ponds"⟩).Consults ∧
      ¬(ponds.callAfter 0 [⟨"main", .schema⟩, ⟨"main", .table "ponds"⟩]
        ⟨"main", .hasTable "ponds"⟩).Consults ∧
      (ponds.callAfter 0 [⟨"main", .schema⟩, ⟨"main", .table "ponds"⟩]
        ⟨"main", .hasTable "ponds"⟩).reply = .ok (.found true) := by
  obtain ⟨-, -, -, hfailed, -⟩ := cache_stable ponds ⟨"main", .schema⟩ 0 []
  obtain ⟨hreply, -, hnone, hagain⟩ := hfailed (.fault .noConnection) (by decide +kernel)
  have hconsults := (hagain (.table "ponds")).mpr (by decide +kernel)
  -- The second call loads the driver, which the third then finds.
  have hloads : (ponds.callAfter 0 [⟨"main", .schema⟩] ⟨"main", .table "ponds"⟩).Loads "main"
      ⟨"main", [⟨"ponds", "main", [⟨"name", "varchar", true⟩]⟩]⟩ :=
    ⟨rfl, hconsults, by decide +kernel⟩
  obtain ⟨hwhen, -, hfound, -⟩ := cache_stable ponds ⟨"main", .hasTable "ponds"⟩ 0
    [⟨"main", .schema⟩, ⟨"main", .table "ponds"⟩]
  refine ⟨hreply, hnone, hconsults, fun h => (hwhen.mp h).2 ⟨_, ?_, _, hloads⟩, ?_⟩
  · exact List.mem_cons_of_mem _ (List.mem_singleton_self _)
  · exact (hfound _ (List.mem_append_left _ (List.mem_cons_of_mem _ (List.mem_singleton_self _)))
      _ hloads).2

end Provider

end RelationalSearch
