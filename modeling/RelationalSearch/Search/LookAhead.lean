import RelationalSearch.Search.Context

/-!
# Looking ahead into a relation

Before a relation is searched, the search looks whether there is anything to find
in it: a parameter for one of its columns, a broad search that has not been there
yet, or something in one of its own relations. A broad search that comes back to
an entity on the path it is looking along ends there, so that it does not run in
circles; all other parameters lose a name with every relation.

The depth that is left decreases with every relation.
-/

namespace RelationalSearch.SearchContext

/-- Whether parameters find anything in an entity or in its relations; `path` are
the entities on the way, and `visited` those that have been searched. -/
def findsAny (c : SearchContext) (visited : List String) :
    (left : Nat) → Entity → Bag → (ignoreBroad : Bool) → (path : List String) →
      Except SearchError Bool
  | 0, e, _, _, _ => .error (.tooDeep c.maxDepth e.name)
  | left + 1, e, bag, ignoreBroad, path =>
    if path.contains e.name && c.onlyBroad bag then .ok false
    else do
      let columns ← c.columns e
      if bag.keys.any columns.contains then return true
      else if !ignoreBroad && c.onlyBroad bag && !visited.contains e.name then return true
      else e.spec.allowedRelations.anyM fun name => do
        let (_, target) ← c.registry.relation e name
        let broad := !ignoreBroad && c.propagates e name
        let inner := c.relationParameters bag name !broad
        if inner.isEmpty then return false
        else findsAny c visited left target inner (!broad) (e.name :: path)

end RelationalSearch.SearchContext
