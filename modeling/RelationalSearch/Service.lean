import RelationalSearch.Schema.Provider
import RelationalSearch.Search.Compile

/-!
# A search service

A service compiles searches against the schema that its provider has for its
driver. A request is prepared first; only if that succeeds, and only if tables
are needed, is the provider asked, and so a refused request does not make a
database be listed.
-/

namespace RelationalSearch

/-- A service: entities, settings and a provider of schemas. -/
structure Service (σ : Type) where
  provider : Provider σ
  compiler : Compiler

namespace Service

variable {σ : Type}

/-- Answers a prepared request, with the tables of the driver if they are
needed. -/
def answer {ρ α : Type} (s : Service σ) (state : ProviderState σ) (request : Except Failure ρ)
    (needsTables : ρ → Bool) (reply : ρ → Narrated Failure Catalog → Narrated Failure α) :
    Narrated Failure α × ProviderState σ :=
  match request with
  | .error e => (Narrated.silent (.error e), state)
  | .ok r =>
    if needsTables r then
      let (catalog, state) := s.provider.catalog s.compiler.driver state
      (reply r catalog, state)
    else (reply r (pure ⟨s.compiler.driver, []⟩), state)

/-- Compiles a search over an entity and its relations. -/
def compile (s : Service σ) (state : ProviderState σ) (entity : String) (source : Source)
    (options : SearchOptions) (clock : Clock) :
    Narrated Failure CompiledSearch × ProviderState σ :=
  s.answer state (s.compiler.prepare entity source) (fun _ => true)
    (s.compiler.compileRequest options clock)

/-- Compiles a search over an entity by one relation. -/
def compileRelation (s : Service σ) (state : ProviderState σ) (entity relation : String)
    (source : Source) (name : Option String) (options : SearchOptions) :
    Narrated Failure CompiledSearch × ProviderState σ :=
  s.answer state (s.compiler.prepareRelation entity relation source name options.ignoreBroad)
    (fun r => !r.bag.isEmpty) (s.compiler.compileRelationRequest options)

/-- Compiles a search over an entity by columns of a relation. -/
def ofRelation (s : Service σ) (state : ProviderState σ) (entity relation : String)
    (key value : Value) (forceOr : Bool) : Narrated Failure CompiledSearch × ProviderState σ :=
  s.answer state (s.compiler.prepareColumns entity relation key value) (fun _ => true)
    (s.compiler.compileColumnsRequest forceOr)

/-- Whether there is anything to search for. -/
def finds (s : Service σ) (state : ProviderState σ) (entity : String) (source : Source)
    (ignoreBroad : Bool) : Narrated Failure Bool × ProviderState σ :=
  s.answer state (s.compiler.prepareQuestion entity source ignoreBroad) (fun _ => true)
    (s.compiler.findsRequest ignoreBroad)

end Service

end RelationalSearch
