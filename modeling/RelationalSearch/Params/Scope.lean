import RelationalSearch.Params.Bag

/-!
# Scoping parameters to an entity or a relation

The parameters of a relation are written in the scope of its owner with the
relation's name in front: `post_title` is the parameter `title` of the relation
`post`. Scoping keeps the parameters of one relation and strips the name. The
broad-search parameter belongs to every scope, unless it is to be ignored.
-/

namespace RelationalSearch

/-- How a bag is scoped. -/
structure Scope where
  /-- Keys that are removed before anything else. -/
  excluded : List String
  /-- The name in front of the keys to keep; without one all keys are kept. -/
  name : String
  /-- Whether the broad-search parameter is dropped. -/
  ignoreBroad : Bool
  /-- The key of the broad-search parameter. -/
  broadKey : String
  deriving Repr

namespace Scope

/-- The rest of a key after a text it starts with. -/
def rest? : List Char → List Char → Option (List Char)
  | [], cs => some cs
  | _, [] => none
  | a :: as, c :: cs => if a = c then rest? as cs else none

/-- The key without the scope's name and the underscore after it. -/
def stripped? (name key : String) : Option String :=
  (rest? (name.toList ++ ['_']) key.toList).map String.ofList

/-- The key under which a parameter is kept in a scope, if it is kept. -/
def keyWithin? (name : String) (ignoreBroad : Bool) (broadKey key : String) : Option String :=
  match if name.isEmpty then some key else stripped? name key with
  | some key => if (ignoreBroad && key == broadKey) || key.isEmpty then none else some key
  | none => if !ignoreBroad && key == broadKey then some key else none

/-- The parameters of a scope. Blank parameters and excluded keys go first. -/
def apply (scope : Scope) (bag : Bag) : Bag :=
  let kept := (bag.without scope.excluded).nonBlank
  let name := Text.trim scope.name
  if name.isEmpty && !scope.ignoreBroad then kept
  else
    kept.entries.foldl
      (fun result e =>
        match keyWithin? name scope.ignoreBroad scope.broadKey e.1 with
        | some key => result.put key e.2
        | none => result)
      Bag.empty

end Scope

end RelationalSearch
