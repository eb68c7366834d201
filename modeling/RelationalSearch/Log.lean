import RelationalSearch.Text.CaseMapping

/-!
# Log lines

What a search has to say about itself is collected as lines, each with a level;
a log that runs at a level lets the lines of that level and above through to a
handler, which may refuse a line. Names are marked up for a console by a style
around them.
-/

namespace RelationalSearch

/-- The levels of log lines, from the least to the most urgent. -/
inductive LogLevel where
  | debug
  | info
  | warning
  | error
  | critical
  deriving DecidableEq, Repr, Inhabited

namespace LogLevel

/-- The name of a level. -/
def name : LogLevel → String
  | debug => "DEBUG"
  | info => "INFO"
  | warning => "WARNING"
  | error => "ERROR"
  | critical => "CRITICAL"

/-- The rank of a level. -/
def rank : LogLevel → Nat
  | debug => 10
  | info => 20
  | warning => 30
  | error => 40
  | critical => 50

/-- The least rank that a logger lets through, by the name of its level in any
case; a logger without a level of its own lets warnings through. -/
def threshold? (name : String) : Option Nat :=
  [("NOTSET", 30), ("DEBUG", 10), ("INFO", 20), ("WARN", 30), ("WARNING", 30), ("ERROR", 40),
    ("FATAL", 50), ("CRITICAL", 50)].lookup (Text.toCapital name)

end LogLevel

/-- A line of a log. -/
structure LogLine where
  level : LogLevel
  message : String
  deriving DecidableEq, Repr, Inhabited

namespace LogLine

/-- A line for those who follow every step. -/
def debug (message : String) : LogLine := ⟨.debug, message⟩

/-- A line for those who follow events. -/
def info (message : String) : LogLine := ⟨.info, message⟩

/-- The line that ends a timed activity. -/
def timed (label : String) : LogLine := debug (label ++ " took <t>")

end LogLine

/-! ### Logs -/

/-- What takes the lines of a log. A handler for a console reads a line as marked up text;
one that it cannot read it refuses, and then the logging itself fails. -/
structure LogHandler where
  takes : LogLine → Bool

/-- The handler that takes every line. -/
def LogHandler.patient : LogHandler := ⟨fun _ => true⟩

/-- A log: the least rank that it lets through, and what takes its lines. -/
structure Log where
  threshold : Nat
  handler : LogHandler

namespace Log

/-- Whether a log fails over a line: it lets the line through, and the handler refuses it. -/
def refuses (log : Log) (line : LogLine) : Bool :=
  log.threshold ≤ line.level.rank && !log.handler.takes line

/-- A log that fails over nothing. -/
def patient : Log := ⟨0, LogHandler.patient⟩

@[simp] theorem refuses_patient (line : LogLine) : patient.refuses line = false := rfl

end Log

/-- A result with the lines that were logged on the way to it. -/
structure Logged (α : Type) where
  lines : List LogLine
  value : α
  deriving Repr, Inhabited

/-! ### Markup -/

/-- A text in a style. -/
def styled (style text : String) : String := "[" ++ style ++ "]" ++ text ++ "[/" ++ style ++ "]"

/-- The styles of the things that are named in a log. -/
def palette : List (String × String) :=
  [("entity", "bold cyan"), ("table", "blue"), ("column", "green"), ("relation", "magenta"),
   ("driver", "yellow"), ("value", "white")]

/-- The name of an entity, marked up. -/
def entityMarkup (name : String) : String := styled "bold cyan" name

/-- The name of a relation, marked up. -/
def relationMarkup (name : String) : String := styled "magenta" name

/-- The name of a driver, marked up. -/
def driverMarkup (name : String) : String := styled "yellow" name

end RelationalSearch
