import RelationalSearch.Service

/-!
# Searches over a connection

An endpoint answers the query string of a connection with a compiled search. A
refusal becomes an answer with the status of its kind; one that is the server's
own fault is logged. What fails outside the rules of searching is no answer.
-/

namespace RelationalSearch

/-- The answer of an endpoint. -/
inductive Response where
  /-- A search and the text of its predicate. -/
  | found (condition : String) (search : CompiledSearch)
  /-- A refusal. -/
  | refused (cause : SearchError)
  deriving Repr, Inhabited

namespace Response

/-- The status of an answer. -/
def status : Response → Nat
  | found .. => 200
  | refused cause => cause.kind.status

end Response

namespace Endpoint

/-- The line that is logged when refusals are made answers. -/
def setUpLine : LogLine :=
  .info (styled "green" "✓" ++ " Configured granular search error handlers")

/-- The lines that are logged for a refusal at a path. -/
def refusalLines (path : String) (cause : SearchError) : List LogLine :=
  if 500 ≤ cause.kind.status then
    [⟨.error, cause.kind.name ++ " on " ++ path ++ ": " ++ cause.message⟩]
  else []

/-- The answer for a compiled search, its operands being in the form of data
exchange. -/
def found (search : CompiledSearch) : Except Failure Response := do
  let condition ← search.predicate.render.mapError .fault
  let exchanged ← search.exchanged.mapError .fault
  return .found condition exchanged

/-- The answer at a path for a search that may have been refused. -/
def respond (path : String) (search : Narrated Failure CompiledSearch) :
    Narrated Failure Response :=
  match search.value with
  | .ok s => Narrated.of search.lines (found s)
  | .error (.refused cause) =>
    Narrated.of (search.lines ++ refusalLines path cause) (.ok (.refused cause))
  | .error e => Narrated.of search.lines (.error e)

/-- Answers a query. -/
def get {σ : Type} (s : Service σ) (state : ProviderState σ) (path entity query : String)
    (options : SearchOptions) (clock : Clock) :
    Narrated Failure Response × ProviderState σ :=
  let (search, state) := s.compile state entity (.connection query) options clock
  ((do
    Narrated.say setUpLine
    respond path search), state)

end Endpoint

end RelationalSearch
