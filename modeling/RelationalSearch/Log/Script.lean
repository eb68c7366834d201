import RelationalSearch.Console.Grid
import RelationalSearch.Console.Markup
import RelationalSearch.Console.Rule
import RelationalSearch.Display
import RelationalSearch.Log
import RelationalSearch.Value.Text

/-!
# Scripts for a logger

A logger has a level and a number of open blocks. A line is let through if its
level admits it, and stands behind two blanks for every open block. It goes to a
handler, and if that refuses it, the step fails that logged it. Besides lines there
are headings and tables for the console, which are printed while the level admits
information.

A script is a list of steps, some of which hold steps of their own. A block is
closed however it ends; a timed block logs its end also when it fails; a step that
attempts others goes on after an impossible value.
-/

namespace RelationalSearch

/-- A logger: the least rank that it lets through, and its open blocks. -/
structure Logger where
  threshold : Nat
  depth : Nat
  deriving DecidableEq, Repr, Inhabited

namespace Logger

/-- A logger at a level, by the name of the level. -/
def atLevel? (level : String) : Option Logger :=
  (LogLevel.threshold? level).map fun threshold => ⟨threshold, 0⟩

/-- Whether a logger lets the lines of a level through. -/
def admits (l : Logger) (level : LogLevel) : Bool := l.threshold ≤ level.rank

/-- What stands in front of a line inside some blocks. -/
def indentation (depth : Nat) : String := String.ofList (List.replicate (2 * depth) ' ')

/-- What becomes of a line: nothing goes to the handler, or the line with its
indentation. -/
def emit (l : Logger) (line : LogLine) : List LogLine :=
  if l.admits line.level then [⟨line.level, indentation l.depth ++ line.message⟩] else []

end Logger

/-- The steps of a script. -/
inductive LogStep where
  /-- A line. -/
  | say (line : LogLine)
  /-- A line of success. -/
  | success (message : String)
  /-- A warning in the style of a thing. -/
  | tinted (thing text : String)
  /-- A heading. -/
  | heading (title : String)
  /-- A table. -/
  | table (headers : List String) (rows : List (List Value)) (title : Option String)
  /-- Another level from now on. -/
  | setLevel (level : String)
  /-- Steps in a block. -/
  | indented (steps : List LogStep)
  /-- Steps whose end is logged. -/
  | timed (label : String) (steps : List LogStep)
  /-- An impossible value. -/
  | fail
  /-- Steps that may meet an impossible value. -/
  | attempt (steps : List LogStep)
  deriving Repr, Inhabited

/-- What a script leaves behind: the lines that the handler took, what the console
printed, the logger, and how the script ended. -/
structure LogRun where
  lines : List LogLine
  printed : List String
  logger : Logger
  ending : Except Fault Unit
  deriving Inhabited

namespace LogRun

/-- A run that only changes or keeps the logger. -/
def quiet (logger : Logger) : LogRun := ⟨[], [], logger, .ok ()⟩

/-- A run that fails at once. -/
def failed (logger : Logger) (fault : Fault) : LogRun := ⟨[], [], logger, .error fault⟩

/-- A run that logs a line; it fails if the line is let through and the handler refuses
it. -/
def saying (handler : LogHandler) (logger : Logger) (line : LogLine) : LogRun :=
  if (logger.emit line).all handler.takes then ⟨logger.emit line, [], logger, .ok ()⟩
  else failed logger .unbegunStyle

/-- A run that prints on the console. -/
def printing (logger : Logger) (printed : Except Fault (List String)) : LogRun :=
  match printed with
  | .ok lines => ⟨[], lines, logger, .ok ()⟩
  | .error fault => failed logger fault

/-- A run followed by another one, whatever became of it. -/
def always (r : LogRun) (next : Logger → LogRun) : LogRun :=
  let after := next r.logger
  ⟨r.lines ++ after.lines, r.printed ++ after.printed, after.logger,
    match after.ending with
    | .ok () => r.ending
    | .error fault => .error fault⟩

/-- A run followed by another one if it ended well. -/
def andThen (r : LogRun) (next : Logger → LogRun) : LogRun :=
  match r.ending with
  | .ok () => r.always next
  | .error _ => r

/-- A run followed by another one if it met an impossible value, which is then
settled. -/
def orElse (r : LogRun) (next : Logger → LogRun) : LogRun :=
  match r.ending with
  | .error .badValue => LogRun.always ⟨r.lines, r.printed, r.logger, .ok ()⟩ next
  | _ => r

end LogRun

/-- A heading as a console prints it. -/
def printedHeading (width : Nat) (title : String) : Except Fault (List String) :=
  (Console.unmarked (styled "bold" title)).map fun title =>
    printedLines width [Console.ruleLine width title]

/-- A table of values as a console prints it; the title of a table without columns
is not looked at. -/
def printedTable (width : Nat) (headers : List String) (rows : List (List Value))
    (title : Option String) : Except Fault (List String) := do
  let headers ← headers.mapM Console.unmarked
  let rows ← rows.mapM fun row => row.mapM fun v => Console.unmarked v.shown
  let grid := Console.Grid.ofRows none headers rows
  match title with
  | some title =>
    if title.isEmpty || grid.columns.isEmpty then return printedLines width (grid.lines width)
    else
      let title ← Console.unmarked title
      return printedLines width ({ grid with title := some title }.lines width)
  | none => return printedLines width (grid.lines width)

namespace LogStep

/-- A run that prints if the logger admits information. -/
def informing (logger : Logger) (printed : Except Fault (List String)) : LogRun :=
  if logger.admits .info then LogRun.printing logger printed else LogRun.quiet logger

mutual

/-- Runs a step, for a handler and on a console of some width. -/
def run (handler : LogHandler) (width : Nat) (logger : Logger) : LogStep → LogRun
  | .say line => LogRun.saying handler logger line
  | .success message =>
    LogRun.saying handler logger (LogLine.info (styled "green" "✓" ++ " " ++ message))
  | .tinted thing text =>
    match palette.lookup thing with
    | some style => LogRun.saying handler logger ⟨.warning, styled style text⟩
    | none => LogRun.failed logger .missingKey
  | .heading title => informing logger (printedHeading width title)
  | .table headers rows title => informing logger (printedTable width headers rows title)
  | .setLevel level =>
    match LogLevel.threshold? level with
    | some threshold => LogRun.quiet { logger with threshold }
    | none => LogRun.failed logger .badValue
  | .indented steps =>
    (runAll handler width { logger with depth := logger.depth + 1 } steps).always fun logger =>
      LogRun.quiet { logger with depth := logger.depth - 1 }
  | .timed label steps =>
    (runAll handler width logger steps).always fun logger =>
      LogRun.saying handler logger (LogLine.timed label)
  | .fail => LogRun.failed logger .badValue
  | .attempt steps =>
    (runAll handler width logger steps).orElse fun logger =>
      LogRun.saying handler logger ⟨.warning, "caught"⟩

/-- Runs steps one after another, up to the first that fails. -/
def runAll (handler : LogHandler) (width : Nat) (logger : Logger) : List LogStep → LogRun
  | [] => LogRun.quiet logger
  | step :: rest =>
    (run handler width logger step).andThen fun logger => runAll handler width logger rest

end

end LogStep

end RelationalSearch
