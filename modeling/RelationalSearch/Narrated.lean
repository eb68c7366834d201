import RelationalSearch.Error
import RelationalSearch.Log

/-!
# Narrated computations

A narrated computation ends with a result or with a failure, and in both cases
leaves the lines that it logged. Its value alone is a plain computation that may
fail: `value` turns steps of the one into steps of the other, so that what is
said about results need not speak of lines. Only a log that refuses one of the
lines changes the result, into a failure (`through`).
-/

namespace RelationalSearch

/-- A computation that logs lines and may fail. -/
def Narrated (ε α : Type) : Type := Logged (Except ε α)

namespace Narrated

/-- The lines that were logged. -/
def lines {ε α : Type} (x : Narrated ε α) : List LogLine := Logged.lines x

/-- The result or the failure. -/
def value {ε α : Type} (x : Narrated ε α) : Except ε α := Logged.value x

/-- A narrated computation by its lines and its value. -/
def of {ε α : Type} (lines : List LogLine) (value : Except ε α) : Narrated ε α :=
  Logged.mk lines value

/-- One step after another; after a failure nothing more is logged. -/
def andThen {ε α β : Type} (x : Narrated ε α) (f : α → Narrated ε β) : Narrated ε β :=
  match x.value with
  | .ok a => of (x.lines ++ (f a).lines) (f a).value
  | .error e => of x.lines (.error e)

instance {ε : Type} : Monad (Narrated ε) where
  pure a := of [] (.ok a)
  bind := andThen

/-- A value without lines. -/
def silent {ε α : Type} (x : Except ε α) : Narrated ε α := of [] x

/-- A single line. -/
def say {ε : Type} (line : LogLine) : Narrated ε Unit := of [line] (.ok ())

/-- A result that was logged without failing. -/
def ofLogged {ε α : Type} (x : Logged α) : Narrated ε α := of x.lines (.ok x.value)

/-- A failure seen as one of another kind. -/
def mapError {ε ε' α : Type} (f : ε → ε') (x : Narrated ε α) : Narrated ε' α :=
  of x.lines (x.value.mapError f)

/-- An activity whose end is logged, however it ends. -/
def timed {ε α : Type} (label : String) (x : Narrated ε α) : Narrated ε α :=
  of (x.lines ++ [LogLine.timed label]) x.value

/-- A computation whose lines go to a log. It ends at the first line that the log refuses;
only the ends of timed activities would still be logged then, and if the log refuses one of
these as well, the failure is the same. -/
def through {α : Type} (log : Log) (x : Narrated Failure α) : Narrated Failure α :=
  if x.lines.any log.refuses then
    of (x.lines.takeWhile fun line => !log.refuses line) (.error (.fault .unbegunStyle))
  else x

/-! ### Values of composed computations -/

section

variable {ε α β : Type}

@[simp] theorem value_of (ls : List LogLine) (x : Except ε α) : (of ls x).value = x := rfl

@[simp] theorem lines_of (ls : List LogLine) (x : Except ε α) : (of ls x).lines = ls := rfl

@[simp] theorem value_pure (a : α) : (pure a : Narrated ε α).value = .ok a := rfl

@[simp] theorem value_bind (x : Narrated ε α) (f : α → Narrated ε β) :
    (x >>= f).value = x.value.bind fun a => (f a).value := by
  change (andThen x f).value = _
  unfold andThen
  cases x.value <;> rfl

@[simp] theorem value_silent (x : Except ε α) : (silent x).value = x := rfl

@[simp] theorem value_say (line : LogLine) : (say line : Narrated ε Unit).value = .ok () := rfl

@[simp] theorem value_ofLogged (x : Logged α) : (ofLogged x : Narrated ε α).value = .ok x.value :=
  rfl

@[simp] theorem value_timed (label : String) (x : Narrated ε α) :
    (timed label x).value = x.value := rfl

@[simp] theorem value_mapError {ε' : Type} (f : ε → ε') (x : Narrated ε α) :
    (x.mapError f).value = x.value.mapError f := rfl

theorem value_through (log : Log) (x : Narrated Failure α) :
    (x.through log).value =
      if x.lines.any log.refuses then .error (.fault .unbegunStyle) else x.value := by
  unfold through
  split <;> rfl

@[simp] theorem through_patient (x : Narrated Failure α) : x.through Log.patient = x := by
  simp [through]

end

end Narrated

end RelationalSearch
