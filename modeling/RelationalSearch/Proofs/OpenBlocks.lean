import Mathlib.Tactic.Common
import RelationalSearch.Log.Script

/-!
# The blocks that are open

A logger knows how far to indent a line by a number that each block raises when it is
entered and lowers when it is left. Here a script is followed without that number, moment
by moment (`RelationalSearch.LogMoment.next?`): what is remembered is what has been entered
and not yet left, innermost first, with the steps that come after it, and the level in
force. An impossible value leaves one enclosure after the other, through blocks and timed
activities, until a step that attempts others holds it up, and there the script goes on. The
blocks that are open at a moment are those among what has not yet been left, whatever led
there.

What is said is heard by a handler if the level of the moment admits it, behind two blanks
for every block that is open. A handler may refuse what it hears, as one does that writes on
a console and cannot read the line as marked up text; then the step fails that said it,
and this is left like an impossible value, except that no attempt holds it up.

The main statement is `RelationalSearch.LogStep.runAll_balanced`: for every handler the
number is afterwards what it was before, and the lines of a run are those that are heard on
this course and taken. It is proved for a step in any surroundings, so that the steps of a
block can be followed inside it.
-/

namespace RelationalSearch

/-! ### Moments of a script -/

/-- What a script can enter. -/
inductive LogEnclosure where
  /-- A block. -/
  | block
  /-- A timed activity. -/
  | timed (label : String)
  /-- Steps that may meet an impossible value. -/
  | attempt
  deriving DecidableEq, Repr

/-- Something that has been entered, with the steps that come after it. -/
structure LogPending where
  enclosure : LogEnclosure
  rest : List LogStep

/-- What a script is at. -/
inductive LogTask where
  /-- Steps that come next. -/
  | steps (steps : List LogStep)
  /-- Leaving what has been entered, because of a fault. -/
  | leaving (fault : Fault)

/-- **A moment of a script.** -/
structure LogMoment where
  task : LogTask
  /-- What has been entered and not yet left, innermost first. -/
  pending : List LogPending
  /-- The least rank that is let through. -/
  threshold : Nat

/-- **A line that is said**, whether it is let through or not. -/
structure LogUtterance where
  line : LogLine
  /-- How many blocks are open. -/
  opened : Nat
  /-- The least rank that is let through. -/
  threshold : Nat
  deriving DecidableEq, Repr

namespace LogPending

/-- How many blocks there are among what has been entered. -/
def blocks : List LogPending → Nat
  | [] => 0
  | ⟨.block, _⟩ :: outer => blocks outer + 1
  | _ :: outer => blocks outer

end LogPending

/-- **What is heard of an utterance** where some blocks were open from the start: nothing if
the level does not admit it, and else the line behind two blanks for every open block. -/
def LogUtterance.heard (before : Nat) (u : LogUtterance) : List LogLine :=
  if u.threshold ≤ u.line.level.rank then
    [⟨u.line.level, String.ofList (List.replicate (2 * (before + u.opened)) ' ') ++ u.line.message⟩]
  else []

/-- What is heard is one line at most, so a handler takes it or nothing is left of it. -/
theorem LogUtterance.filter_heard (takes : LogLine → Bool) (before : Nat) (u : LogUtterance) :
    (u.heard before).filter takes = if (u.heard before).all takes then u.heard before else [] := by
  unfold heard
  split
  · by_cases htakes : takes ⟨u.line.level,
      String.ofList (List.replicate (2 * (before + u.opened)) ' ') ++ u.line.message⟩ = true
    · simp [htakes]
    · simp [htakes]
  · rfl

/-- What a script is at after something was said: what it is meant to be at, unless the
handler refuses what it hears. -/
def LogTask.afterSaying (handler : LogHandler) (before : Nat) (u : LogUtterance)
    (task : LogTask) : LogTask :=
  if (u.heard before).all handler.takes then task else .leaving .unbegunStyle

namespace LogMoment

/-- A line as it is said at a moment. -/
def utter (m : LogMoment) (line : LogLine) : LogUtterance :=
  ⟨line, LogPending.blocks m.pending, m.threshold⟩

/-- A moment that differs in what the script is at. -/
def withTask (m : LogMoment) (task : LogTask) : LogMoment := { m with task }

/-- The moment after a heading or a table, which can fail only where it is printed. -/
def afterPrinting (m : LogMoment) (rest : List LogStep) (printed : Except Fault (List String)) :
    LogMoment :=
  if m.threshold ≤ LogLevel.info.rank then
    match printed with
    | .ok _ => m.withTask (.steps rest)
    | .error fault => m.withTask (.leaving fault)
  else m.withTask (.steps rest)

/-- The moment at which something has been entered. -/
def entering (m : LogMoment) (enclosure : LogEnclosure) (steps rest : List LogStep) : LogMoment :=
  ⟨.steps steps, ⟨enclosure, rest⟩ :: m.pending, m.threshold⟩

/-- The moment after something was said, with the utterance. -/
def saying (handler : LogHandler) (before : Nat) (m : LogMoment) (line : LogLine)
    (rest : List LogStep) : List LogUtterance × LogMoment :=
  ([m.utter line],
    m.withTask (LogTask.afterSaying handler before (m.utter line) (.steps rest)))

/-- What is said at a step, and the moment after it, given the steps that come after it. -/
def perform (handler : LogHandler) (width before : Nat) (m : LogMoment) (rest : List LogStep) :
    LogStep → List LogUtterance × LogMoment
  | .say line => m.saying handler before line rest
  | .success message =>
    m.saying handler before (LogLine.info (styled "green" "✓" ++ " " ++ message)) rest
  | .tinted thing text =>
    match palette.lookup thing with
    | some style => m.saying handler before ⟨.warning, styled style text⟩ rest
    | none => ([], m.withTask (.leaving .missingKey))
  | .heading title => ([], m.afterPrinting rest (printedHeading width title))
  | .table headers rows title => ([], m.afterPrinting rest (printedTable width headers rows title))
  | .setLevel level =>
    match LogLevel.threshold? level with
    | some threshold => ([], ⟨.steps rest, m.pending, threshold⟩)
    | none => ([], m.withTask (.leaving .badValue))
  | .indented steps => ([], m.entering .block steps rest)
  | .timed label steps => ([], m.entering (.timed label) steps rest)
  | .fail => ([], m.withTask (.leaving .badValue))
  | .attempt steps => ([], m.entering .attempt steps rest)

/-- What is said when the innermost of what has been entered is left, and where the script
goes on: after it, or out of what encloses it, too. -/
def leave (handler : LogHandler) (before : Nat) (m : LogMoment) (p : LogPending) :
    List LogUtterance × LogTask :=
  let saying := fun line task => ([m.utter line],
    LogTask.afterSaying handler before (m.utter line) task)
  match p.enclosure, m.task with
  | .block, .steps _ => ([], .steps p.rest)
  | .block, .leaving fault => ([], .leaving fault)
  | .timed label, .steps _ => saying (LogLine.timed label) (.steps p.rest)
  | .timed label, .leaving fault => saying (LogLine.timed label) (.leaving fault)
  | .attempt, .steps _ => ([], .steps p.rest)
  | .attempt, .leaving fault =>
    if fault = .badValue then saying ⟨.warning, "caught"⟩ (.steps p.rest)
    else ([], .leaving fault)

/-- What is said at a moment, and the moment after it, if the script is not over. -/
def next? (handler : LogHandler) (width before : Nat) (m : LogMoment) :
    Option (List LogUtterance × LogMoment) :=
  match m.task, m.pending with
  | .steps (step :: rest), _ => some (m.perform handler width before rest step)
  | .steps [], p :: outer | .leaving _, p :: outer =>
    some ((m.leave handler before p).1, ⟨(m.leave handler before p).2, outer, m.threshold⟩)
  | _, [] => none

/-! ### The course of a script -/

/-- **The course of a script** from a moment to a later one, with what is said on it. -/
inductive Course (handler : LogHandler) (width before : Nat) :
    LogMoment → List LogUtterance → LogMoment → Prop
  /-- Nothing has happened yet. -/
  | here (m : LogMoment) : Course handler width before m [] m
  /-- One thing more, first of all. -/
  | step {m n o : LogMoment} {said later : List LogUtterance}
      (h : m.next? handler width before = some (said, n))
      (rest : Course handler width before n later o) :
      Course handler width before m (said ++ later) o

namespace Course

variable {handler : LogHandler} {width before : Nat} {m n o : LogMoment}
  {said later : List LogUtterance}

theorem single (h : m.next? handler width before = some (said, n)) :
    Course handler width before m said n := by
  have := step h (here n)
  rwa [List.append_nil] at this

/-- A step that is performed. -/
theorem performed {step : LogStep} {rest : List LogStep} {pending : List LogPending}
    {threshold : Nat}
    (h : perform handler width before ⟨.steps (step :: rest), pending, threshold⟩ rest step =
      (said, n)) :
    Course handler width before ⟨.steps (step :: rest), pending, threshold⟩ said n :=
  single (congrArg some h)

theorem trans (h : Course handler width before m said n)
    (h' : Course handler width before n later o) :
    Course handler width before m (said ++ later) o := by
  induction h with
  | here => exact h'
  | step hfirst _ ih =>
    rw [List.append_assoc]
    exact step hfirst (ih h')

/-- Courses that go on until the script is over are one and the same. -/
theorem unique (h : Course handler width before m said n)
    (hn : n.next? handler width before = none) (h' : Course handler width before m later o)
    (ho : o.next? handler width before = none) : said = later ∧ n = o := by
  induction h generalizing later with
  | here =>
    cases h' with
    | here => exact ⟨rfl, rfl⟩
    | step hfirst _ => simp [hn] at hfirst
  | step hfirst _ ih =>
    cases h' with
    | here => simp [ho] at hfirst
    | step hfirst' hrest =>
      obtain ⟨rfl, rfl⟩ := Prod.mk.inj (Option.some.inj (hfirst.symm.trans hfirst'))
      obtain ⟨rfl, rfl⟩ := ih hn hrest
      exact ⟨rfl, rfl⟩

end Course

end LogMoment

/-! ### A run follows the course -/

namespace LogRun

/-- What a script is at when a run is over, given the steps that come after it. -/
def task (r : LogRun) (rest : List LogStep) : LogTask :=
  match r.ending with
  | .ok () => .steps rest
  | .error fault => .leaving fault

/-- An impossible value is settled. -/
theorem orElse_of_badValue {r : LogRun} {next : Logger → LogRun}
    (h : r.ending = .error .badValue) :
    r.orElse next = LogRun.always ⟨r.lines, r.printed, r.logger, .ok ()⟩ next := by
  unfold orElse
  rw [h]

/-- Whatever else becomes of a run is left alone. -/
theorem orElse_of_ne {r : LogRun} {next : Logger → LogRun} (h : r.ending ≠ .error .badValue) :
    r.orElse next = r := by
  unfold orElse
  split
  next heq => exact absurd heq h
  next => rfl

/-- A run that ended well ends as the one that follows it. -/
theorem ending_always_of_ok {r : LogRun} {next : Logger → LogRun} (h : r.ending = .ok ()) :
    (r.always next).ending = (next r.logger).ending := by
  unfold always
  cases hnext : (next r.logger).ending with
  | ok => simp only [hnext, h]
  | error fault => simp only [hnext]

/-- Saying something leaves the logger alone. -/
@[simp] theorem logger_saying (handler : LogHandler) (logger : Logger) (line : LogLine) :
    (saying handler logger line).logger = logger := by
  unfold saying
  split <;> rfl

section Saying

variable {handler : LogHandler} {before : Nat} {logger : Logger} {line : LogLine}
  {u : LogUtterance}

/-- The lines of a run that says something are what is heard of it and taken. -/
theorem lines_saying (hemit : logger.emit line = u.heard before) :
    (saying handler logger line).lines = (u.heard before).filter handler.takes := by
  rw [LogUtterance.filter_heard, ← hemit]
  unfold saying
  split <;> rfl

theorem task_saying (hemit : logger.emit line = u.heard before) (rest : List LogStep) :
    (saying handler logger line).task rest =
      LogTask.afterSaying handler before u (.steps rest) := by
  unfold LogTask.afterSaying
  rw [← hemit]
  unfold saying
  split <;> rfl

/-- Whatever became of a run, it ends in a fault if the line is refused that is said
afterwards. -/
theorem task_always_saying {r : LogRun} (hemit : r.logger.emit line = u.heard before)
    (rest : List LogStep) :
    (r.always fun logger => saying handler logger line).task rest =
      LogTask.afterSaying handler before u (r.task rest) := by
  unfold LogTask.afterSaying
  rw [← hemit]
  by_cases htaken : (r.logger.emit line).all handler.takes = true
  · have hsaying : saying handler r.logger line = ⟨r.logger.emit line, [], r.logger, .ok ()⟩ :=
      if_pos htaken
    rw [if_pos htaken, always, hsaying]
    rfl
  · have hsaying : saying handler r.logger line = failed r.logger .unbegunStyle := if_neg htaken
    rw [if_neg htaken, always, hsaying]
    rfl

end Saying

/-- **A run follows the course** from a moment, within what is pending then: it leaves as
many blocks open as were open before it, and its lines are what is heard and taken of the
course to the moment when it is over. The second of the numbers is that of the blocks that
were open before the script began. -/
structure Follows (handler : LogHandler) (width before : Nat) (start : LogMoment)
    (rest : List LogStep) (r : LogRun) : Prop where
  depth : r.logger.depth = before + LogPending.blocks start.pending
  course : ∃ said, LogMoment.Course handler width before start said
      ⟨r.task rest, start.pending, r.logger.threshold⟩ ∧
    r.lines = (said.flatMap (LogUtterance.heard before)).filter handler.takes

end LogRun

namespace LogStep

open LogRun LogMoment

variable {handler : LogHandler} {width before : Nat} {logger : Logger}
  {pending : List LogPending}

/-- A line that a logger emits is heard if it knows how many blocks are open. -/
theorem emit_eq_heard (hdepth : logger.depth = before + LogPending.blocks pending)
    (line : LogLine) (task : LogTask) :
    logger.emit line = (LogMoment.utter ⟨task, pending, logger.threshold⟩ line).heard before := by
  rw [Logger.emit, Logger.admits, hdepth]
  by_cases hadmits : logger.threshold ≤ line.level.rank
  · rw [if_pos (decide_eq_true hadmits)]
    exact (if_pos hadmits).symm
  · rw [if_neg (by simpa using hadmits)]
    exact (if_neg hadmits).symm

/-- A step that says a line, and nothing else. -/
theorem follows_saying (hdepth : logger.depth = before + LogPending.blocks pending)
    {line : LogLine} {step : LogStep} {rest : List LogStep}
    (h : perform handler width before ⟨.steps (step :: rest), pending, logger.threshold⟩ rest
        step =
      LogMoment.saying handler before ⟨.steps (step :: rest), pending, logger.threshold⟩ line
        rest) :
    (LogRun.saying handler logger line).Follows handler width before
      ⟨.steps (step :: rest), pending, logger.threshold⟩ rest := by
  have hemit := emit_eq_heard hdepth line (.steps (step :: rest))
  refine ⟨by rw [logger_saying]; exact hdepth,
    [utter ⟨.steps (step :: rest), pending, logger.threshold⟩ line], ?_, ?_⟩
  · rw [task_saying hemit, logger_saying]
    exact Course.performed h
  · rw [List.flatMap_singleton]
    exact lines_saying hemit

/-- A step that says nothing. -/
theorem follows_silent {r : LogRun} (hdepth : r.logger.depth = before + LogPending.blocks pending)
    (hlines : r.lines = []) {step : LogStep} {threshold : Nat} {rest : List LogStep}
    (h : perform handler width before ⟨.steps (step :: rest), pending, threshold⟩ rest step =
      ([], ⟨r.task rest, pending, r.logger.threshold⟩)) :
    r.Follows handler width before ⟨.steps (step :: rest), pending, threshold⟩ rest where
  depth := hdepth
  course := ⟨_, Course.performed h, hlines⟩

/-- A step that prints, if the level admits it. -/
theorem follows_informing (hdepth : logger.depth = before + LogPending.blocks pending)
    {printed : Except Fault (List String)} {step : LogStep} {rest : List LogStep}
    (h : perform handler width before ⟨.steps (step :: rest), pending, logger.threshold⟩ rest
        step =
      ([], afterPrinting ⟨.steps (step :: rest), pending, logger.threshold⟩ rest printed)) :
    (informing logger printed).Follows handler width before
      ⟨.steps (step :: rest), pending, logger.threshold⟩ rest := by
  unfold afterPrinting at h
  unfold informing Logger.admits
  by_cases hadmits : logger.threshold ≤ LogLevel.info.rank
  · rw [if_pos hadmits] at h
    rw [if_pos (decide_eq_true hadmits)]
    cases printed with
    | ok lines => exact follows_silent hdepth rfl h
    | error fault => exact follows_silent hdepth rfl h
  · rw [if_neg hadmits] at h
    rw [if_neg (by simpa using hadmits)]
    exact follows_silent hdepth rfl h

/-! #### Leaving what was entered -/

section Leave

variable {r : LogRun} {rest : List LogStep} {outer : List LogPending} {threshold : Nat}

/-- When a run is over, what encloses it is left. -/
theorem next?_task (p : LogPending) :
    next? handler width before ⟨r.task [], p :: outer, threshold⟩ =
      some ((leave handler before ⟨r.task [], p :: outer, threshold⟩ p).1,
        ⟨(leave handler before ⟨r.task [], p :: outer, threshold⟩ p).2, outer, threshold⟩) := by
  unfold LogRun.task
  cases r.ending <;> rfl

theorem leave_block :
    leave handler before ⟨r.task [], outer, threshold⟩ ⟨.block, rest⟩ = ([], r.task rest) := by
  unfold LogRun.task
  cases r.ending <;> rfl

/-- The end of a timed activity is logged, however it ends. -/
theorem leave_timed {label : String} :
    leave handler before ⟨r.task [], outer, threshold⟩ ⟨.timed label, rest⟩ =
      ([utter ⟨r.task [], outer, threshold⟩ (LogLine.timed label)],
        LogTask.afterSaying handler before
          (utter ⟨r.task [], outer, threshold⟩ (LogLine.timed label)) (r.task rest)) := by
  unfold LogRun.task
  cases r.ending <;> rfl

/-- An impossible value is held up by the innermost step that attempts others. -/
theorem leave_attempt_of_badValue (h : r.ending = .error .badValue) :
    leave handler before ⟨r.task [], outer, threshold⟩ ⟨.attempt, rest⟩ =
      ([utter ⟨r.task [], outer, threshold⟩ ⟨.warning, "caught"⟩],
        LogTask.afterSaying handler before
          (utter ⟨r.task [], outer, threshold⟩ ⟨.warning, "caught"⟩) (.steps rest)) := by
  unfold LogRun.task
  rw [h]
  rfl

theorem leave_attempt_of_ne (h : r.ending ≠ .error .badValue) :
    leave handler before ⟨r.task [], outer, threshold⟩ ⟨.attempt, rest⟩ = ([], r.task rest) := by
  unfold LogRun.task
  cases hending : r.ending with
  | ok => rfl
  | error fault =>
    exact if_neg fun hfault => h (by rw [hending, hfault])

end Leave

/-- A step that encloses others: they are followed inside what it enters, and then it is
left. -/
theorem follows_enclosed {enclosure : LogEnclosure} {step : LogStep} {steps rest : List LogStep}
    {inner r : LogRun} {threshold : Nat} {said : List LogUtterance}
    (henter : perform handler width before ⟨.steps (step :: rest), pending, threshold⟩ rest step =
      ([], entering ⟨.steps (step :: rest), pending, threshold⟩ enclosure steps rest))
    (hinner : inner.Follows handler width before
      ⟨.steps steps, ⟨enclosure, rest⟩ :: pending, threshold⟩ [])
    (hdepth : r.logger.depth = before + LogPending.blocks pending)
    (hthreshold : r.logger.threshold = inner.logger.threshold)
    (hleave : leave handler before
      ⟨inner.task [], ⟨enclosure, rest⟩ :: pending, inner.logger.threshold⟩
      ⟨enclosure, rest⟩ = (said, r.task rest))
    (hlines : r.lines = inner.lines ++
      (said.flatMap (LogUtterance.heard before)).filter handler.takes) :
    r.Follows handler width before ⟨.steps (step :: rest), pending, threshold⟩ rest where
  depth := hdepth
  course := by
    obtain ⟨saidInside, hcourse, hheard⟩ := hinner.course
    have houtside : next? handler width before
        ⟨inner.task [], ⟨enclosure, rest⟩ :: pending, inner.logger.threshold⟩ =
          some (said, ⟨r.task rest, pending, r.logger.threshold⟩) := by
      rw [next?_task, hleave, hthreshold]
    refine ⟨_, (Course.performed henter).trans
      (hcourse.trans (Course.single houtside)), ?_⟩
    rw [hlines, hheard, List.nil_append, List.flatMap_append, List.filter_append]

/-- A step that encloses others and says something when they are over, however this was, with
the run that is left when its end is settled. -/
theorem follows_closing {enclosure : LogEnclosure} {step : LogStep} {steps rest : List LogStep}
    {inner settled : LogRun} {threshold : Nat} {line : LogLine}
    (henter : perform handler width before ⟨.steps (step :: rest), pending, threshold⟩ rest step =
      ([], entering ⟨.steps (step :: rest), pending, threshold⟩ enclosure steps rest))
    (hinner : inner.Follows handler width before
      ⟨.steps steps, ⟨enclosure, rest⟩ :: pending, threshold⟩ [])
    (hopen : LogPending.blocks (⟨enclosure, rest⟩ :: pending) = LogPending.blocks pending)
    (hlogger : settled.logger = inner.logger) (hlines : settled.lines = inner.lines)
    (hleave : leave handler before
        ⟨inner.task [], ⟨enclosure, rest⟩ :: pending, inner.logger.threshold⟩ ⟨enclosure, rest⟩ =
      ([utter ⟨inner.task [], ⟨enclosure, rest⟩ :: pending, inner.logger.threshold⟩ line],
        LogTask.afterSaying handler before
          (utter ⟨inner.task [], ⟨enclosure, rest⟩ :: pending, inner.logger.threshold⟩ line)
          (settled.task rest))) :
    (settled.always fun logger => LogRun.saying handler logger line).Follows handler width before
      ⟨.steps (step :: rest), pending, threshold⟩ rest := by
  have hemit := emit_eq_heard hinner.depth line (inner.task [])
  have hemit' : settled.logger.emit line = _ := (congrArg (Logger.emit · line) hlogger).trans hemit
  have hafter : (settled.always fun logger => LogRun.saying handler logger line).logger =
      inner.logger := (logger_saying handler settled.logger line).trans hlogger
  refine follows_enclosed henter hinner ?_ (congrArg Logger.threshold hafter)
    (hleave.trans (Prod.ext rfl (task_always_saying hemit' rest).symm)) ?_
  · rw [hafter, ← hopen]
    exact hinner.depth
  · rw [List.flatMap_singleton, ← lines_saying hemit', ← hlines]
    rfl

mutual

/-- **A step is run as it is followed**, whatever surrounds it. -/
theorem follows_run (logger : Logger) (pending : List LogPending)
    (hdepth : logger.depth = before + LogPending.blocks pending) :
    ∀ (step : LogStep) (rest : List LogStep),
      (run handler width logger step).Follows handler width before
        ⟨.steps (step :: rest), pending, logger.threshold⟩ rest
  | .say line, rest => follows_saying hdepth rfl
  | .success message, rest => follows_saying hdepth rfl
  | .tinted thing text, rest => by
    rw [run]
    cases hstyle : palette.lookup thing with
    | some style => exact follows_saying hdepth (by simp only [perform, hstyle])
    | none => exact follows_silent hdepth rfl (by simp only [perform, hstyle]; rfl)
  | .heading title, rest => follows_informing hdepth rfl
  | .table headers rows title, rest => follows_informing hdepth rfl
  | .setLevel level, rest => by
    rw [run]
    cases hlevel : LogLevel.threshold? level with
    | some threshold => exact follows_silent hdepth rfl (by simp only [perform, hlevel]; rfl)
    | none => exact follows_silent hdepth rfl (by simp only [perform, hlevel]; rfl)
  | .fail, rest => follows_silent hdepth rfl rfl
  | .indented steps, rest => by
    have hinner := follows_runAll { logger with depth := logger.depth + 1 }
      (⟨.block, rest⟩ :: pending) (congrArg (· + 1) hdepth) steps
    exact follows_enclosed rfl hinner (congrArg (· - 1) hinner.depth) rfl leave_block rfl
  | .timed label steps, rest => by
    have hinner := follows_runAll logger (⟨.timed label, rest⟩ :: pending) hdepth steps
    exact follows_closing rfl hinner rfl rfl rfl leave_timed
  | .attempt steps, rest => by
    have hinner := follows_runAll logger (⟨.attempt, rest⟩ :: pending) hdepth steps
    rw [run]
    by_cases hbad : (runAll handler width logger steps).ending = .error .badValue
    · rw [LogRun.orElse_of_badValue hbad]
      exact follows_closing rfl hinner rfl rfl rfl (leave_attempt_of_badValue hbad)
    · rw [LogRun.orElse_of_ne hbad]
      exact follows_enclosed rfl hinner hinner.depth rfl (leave_attempt_of_ne hbad)
        (List.append_nil _).symm

/-- Steps are run one after another as they are followed. -/
theorem follows_runAll (logger : Logger) (pending : List LogPending)
    (hdepth : logger.depth = before + LogPending.blocks pending) :
    ∀ steps : List LogStep,
      (runAll handler width logger steps).Follows handler width before
        ⟨.steps steps, pending, logger.threshold⟩ []
  | [] => ⟨hdepth, [], Course.here _, rfl⟩
  | step :: rest => by
    have hfirst := follows_run logger pending hdepth step rest
    obtain ⟨said, hcourse, hheard⟩ := hfirst.course
    rw [runAll]
    unfold LogRun.andThen
    cases hending : (run handler width logger step).ending with
    | error fault =>
      -- What comes after the step is not reached.
      refine ⟨hfirst.depth, said, ?_, hheard⟩
      unfold LogRun.task at hcourse ⊢
      rw [hending] at hcourse ⊢
      exact hcourse
    | ok =>
      have hrest := follows_runAll (run handler width logger step).logger pending hfirst.depth rest
      obtain ⟨later, hcourse', hheard'⟩ := hrest.course
      refine ⟨hrest.depth, said ++ later, ?_, ?_⟩
      · have hnext : (run handler width logger step).task rest = .steps rest := by
          rw [LogRun.task, hending]
        rw [hnext] at hcourse
        rw [LogRun.task, LogRun.ending_always_of_ok hending]
        exact hcourse.trans hcourse'
      · rw [List.flatMap_append, List.filter_append, ← hheard, ← hheard']
        rfl

end

/-- A console refuses a line that ends a style which was not begun, and what follows is not
reached. -/
example :
    (fun r : LogRun => (r.lines, r.ending)) (runAll Console.handler 60 ⟨10, 1⟩
        [.say (LogLine.info "tea"), .say (LogLine.info "[/x]"), .say (LogLine.info "coffee")]) =
      ([LogLine.info "  tea"], .error .unbegunStyle) := by
  decide +kernel

end LogStep

end RelationalSearch
