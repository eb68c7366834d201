import RelationalSearch.Proofs.Removal

/-!
# Parameters that nothing takes

An entity never compares its excluded keys, and still a parameter under one of them
can have a say in a search. The bag that is handed on to the relations, and the one
that the order and the range of time are read from, are those of the request, with
the excluded keys in them. So an excluded key acts where it is written like a key of
a relation, where it is the broad-search parameter and this goes on into a relation,
and where it is a reserved key.

Beyond that it does nothing: excluded parameters that are not reserved and that the
scope of no relation takes (`RelationalSearch.Scope.takes`) can be left out of the
request, and the search is the same or fails alike
(`RelationalSearch.Compiler.compile_without_excluded`).
-/

namespace RelationalSearch

/-! ### Scopes -/

namespace Scope

variable {scope : Scope} {bag : Bag} {keys : List String}

/-- Whether a scope takes a parameter out of a bag, under whatever key it keeps it. -/
def takes (scope : Scope) (key : String) : Bool :=
  !scope.excluded.contains key &&
    ((Text.trim scope.name).isEmpty && !scope.ignoreBroad ||
      (keyWithin? (Text.trim scope.name) scope.ignoreBroad scope.broadKey key).isSome)

/-- **What a scope does not take can be left out.** -/
theorem apply_without_of_not_takes (h : ∀ k ∈ keys, k ∈ bag.keys → scope.takes k = false) :
    scope.apply (bag.without keys) = scope.apply bag := by
  have htakes : ∀ e ∈ ((bag.without scope.excluded).nonBlank).entries, e.1 ∈ keys →
      e.1 ∉ scope.excluded ∧ scope.takes e.1 = false := by
    rintro ⟨k, v⟩ he hk
    obtain ⟨hbag, hexcluded, -⟩ := mem_entries_kept.mp he
    exact ⟨hexcluded, h k hk (Bag.mem_keys_of_mem hbag)⟩
  by_cases hif : ((Text.trim scope.name).isEmpty && !scope.ignoreBroad) = true
  · -- Such a scope takes all that is not excluded, so the keys are excluded ones.
    rw [apply, if_pos hif, apply, if_pos hif, Bag.kept_without]
    refine Bag.without_of_disjoint fun k hk hmem => ?_
    obtain ⟨v, hv⟩ := Bag.mem_keys.mp hmem
    obtain ⟨hexcluded, hnot⟩ := htakes (k, v) hv hk
    simp [takes, hexcluded, hif] at hnot
  · rw [apply_eq_storeAll hif, apply_eq_storeAll hif, Bag.kept_without]
    refine Bag.storeAll_filter fun e he hkey => ?_
    obtain ⟨hexcluded, hnot⟩ := htakes e he (by simpa using hkey)
    simpa [takes, hexcluded, hif] using hnot

end Scope

/-! ### Walks -/

namespace SearchContext

variable {c : SearchContext} {e : Entity} {bag bag' : Bag} {ignoreBroad : Bool}

/-- **A walk looks at a bag through its scopes only**: the parameters of the entity
itself and those that reach its relations. -/
theorem walk_congr (hown : c.ownParameters e bag ignoreBroad = c.ownParameters e bag' ignoreBroad)
    (hreaching : ∀ name ∈ e.spec.allowedRelations,
      c.reaching e bag ignoreBroad name = c.reaching e bag' ignoreBroad name)
    (left : Nat) (visited : List String) :
    (c.walk left e bag ignoreBroad visited).value =
      (c.walk left e bag' ignoreBroad visited).value := by
  cases left with
  | zero => rfl
  | succ left =>
    rw [walk_succ, walk_succ, ownPredicate, ownPredicate, hown]
    refine congrArg _ (funext fun own => foldlM_congr (fun found name hname => ?_) _)
    simp only [hop, joined, hreaching name hname]

/-- **Excluded parameters that no relation takes can be left out of a walk.** -/
theorem walk_without_excluded {keys : List String}
    (h : ∀ k ∈ keys, k ∈ bag.keys → k ∈ e.spec.excludedKeys ∧
      ∀ name ∈ e.spec.allowedRelations, (c.relationScope e ignoreBroad name).takes k = false)
    (left : Nat) (visited : List String) :
    (c.walk left e (bag.without keys) ignoreBroad visited).value =
      (c.walk left e bag ignoreBroad visited).value := by
  refine walk_congr ?_ (fun name hname => ?_) left visited
  · rw [ownParameters, ownParameters]
    refine Scope.apply_without_of_not_takes fun k hk hmem => ?_
    simp [Scope.takes, (h k hk hmem).1]
  · rw [reaching_eq_apply, reaching_eq_apply]
    exact Scope.apply_without_of_not_takes fun k hk hmem => (h k hk hmem).2 name hname

end SearchContext

/-! ### Searches -/

namespace Compiler

/-- **A search without excluded parameters is the same search**, or fails with the
same failure, as long as they are not reserved and no relation takes them. The
relations that a request names for a broad search are among the reserved keys, so
that they are the same for both requests. -/
theorem compile_without_excluded {c : Compiler} {catalog : Catalog} {entity : String} {e : Entity}
    {source source' : Source} {options : SearchOptions} {clock : Clock} {bag : Bag}
    {keys : List String} (hentity : c.registry.get entity = .ok e)
    (hbag : source.searchInput c.settings.broadKey = .ok bag)
    (hbag' : source'.searchInput c.settings.broadKey = .ok (bag.without keys))
    (hkeys : ∀ k ∈ keys, k ∈ bag.keys → k ∈ e.spec.excludedKeys ∧ k ∉ reservedKeys ∧
      ∀ requested, requestedRelations bag = .ok requested → ∀ name ∈ e.spec.allowedRelations,
        ((c.context options requested catalog).relationScope e options.ignoreBroad name).takes k =
          false) :
    c.compile catalog entity source' options clock =
      c.compile catalog entity source options clock := by
  have hreserved : ∀ key ∈ reservedKeys, (bag.without keys).nonBlank.get? key =
      bag.nonBlank.get? key := by
    intro key hkey
    rw [Bag.nonBlank_without]
    refine Bag.get?_without_of_imp fun hk hmem => ?_
    obtain ⟨v, hv⟩ := Bag.mem_keys.mp hmem
    exact (hkeys key hk (Bag.mem_keys_of_mem (List.mem_of_mem_filter hv))).2.1 hkey
  have hrelations : requestedRelations (bag.without keys) = requestedRelations bag :=
    requestedRelations_congr (Bag.get?_without_of_imp fun hk hmem =>
      (hkeys _ hk hmem).2.1 List.mem_cons_self)
  rw [compile_eq, compile_eq, prepare_of_searchInput hentity hbag,
    prepare_of_searchInput hentity hbag', hrelations]
  cases hrequested : requestedRelations bag with
  | error fault => rfl
  | ok requested =>
    simp only [Except.mapError, Except.map, Except.bind]
    have hwalk : c.requestWalk catalog options ⟨e, bag.without keys, requested⟩ =
        c.requestWalk catalog options ⟨e, bag, requested⟩ :=
      SearchContext.walk_without_excluded (fun k hk hmem =>
        ⟨(hkeys k hk hmem).1, (hkeys k hk hmem).2.2 requested hrequested⟩) _ _
    simp only [hwalk, requestRange_congr hreserved, assembled, sort_congr hreserved]

end Compiler

namespace Pond

/-- A pond that is not asked for its depth nor, as it seems, for its fish. -/
def guarded : Entity :=
  { pond with spec := { pond.spec with excludedKeys := ["depth", "fish_name"] } }

/-- A compiler over a guarded pond. -/
def guardedCompiler : Compiler := { compiler with registry := ⟨[guarded, fish, species]⟩ }

/-- A request for a pond by its name, its depth and the name of a fish. -/
def furnished : Bag :=
  ⟨[("name", .str "mere"), ("depth", .int 3), ("fish_name", .str "koi")], by decide⟩

end Pond

namespace Compiler

/-- The depth of a guarded pond, beside its name and the name of a fish. -/
theorem compile_without_excluded_pond :
    ∃ result,
      Pond.guardedCompiler.compile Pond.catalog "Pond"
          (.value (.map [(.str "name", .str "mere"), (.str "depth", .int 3),
            (.str "fish_name", .str "koi")])) Pond.following Pond.clock = .ok result ∧
        Pond.guardedCompiler.compile Pond.catalog "Pond"
          (.value (.map [(.str "name", .str "mere"), (.str "fish_name", .str "koi")]))
          Pond.following Pond.clock = .ok result := by
  obtain ⟨result, h⟩ := exists_of_toBool (x := Pond.guardedCompiler.compile Pond.catalog "Pond"
    (.value (.map [(.str "name", .str "mere"), (.str "depth", .int 3),
      (.str "fish_name", .str "koi")])) Pond.following Pond.clock) (by decide +kernel)
  have hbag : Source.searchInput "q" (.value (.map [(.str "name", .str "mere"),
      (.str "depth", .int 3), (.str "fish_name", .str "koi")])) = .ok Pond.furnished := rfl
  have hbag' : Source.searchInput "q" (.value (.map [(.str "name", .str "mere"),
      (.str "fish_name", .str "koi")])) = .ok (Pond.furnished.without ["depth"]) := rfl
  refine ⟨result, h, Eq.trans (compile_without_excluded (e := Pond.guarded) rfl hbag hbag'
    fun k hk _ => ?_) h⟩
  obtain rfl : k = "depth" := List.mem_singleton.mp hk
  refine ⟨by decide, by decide, fun requested hrequested name hname => ?_⟩
  obtain rfl : [] = requested := Except.ok.inj hrequested
  obtain rfl : name = "fish" := List.mem_singleton.mp hname
  decide +kernel

/-- **Excluded parameters can change a search**: one that is written like a key of a
relation asks for something in this relation. -/
theorem not_compile_without_excluded :
    ∃ bag result result',
      Source.searchInput "q" (.value (.map [(.str "fish_name", .str "koi")])) = .ok bag ∧
        Source.searchInput "q" (.value (.map [])) =
          .ok (bag.without Pond.guarded.spec.excludedKeys) ∧
        Pond.guardedCompiler.compile Pond.catalog "Pond"
          (.value (.map [(.str "fish_name", .str "koi")])) SearchOptions.plain Pond.clock =
            .ok result ∧
        Pond.guardedCompiler.compile Pond.catalog "Pond" (.value (.map [])) SearchOptions.plain
          Pond.clock = .ok result' ∧
        result.predicate.joins = ["Fish"] ∧ result'.predicate.joins = [] := by
  obtain ⟨result, h, hjoins⟩ := exists_of_map_ok (x := Pond.guardedCompiler.compile Pond.catalog
    "Pond" (.value (.map [(.str "fish_name", .str "koi")])) SearchOptions.plain Pond.clock)
    (f := fun s => s.predicate.joins) (b := ["Fish"]) (by decide +kernel)
  obtain ⟨result', h', hjoins'⟩ := exists_of_map_ok (x := Pond.guardedCompiler.compile Pond.catalog
    "Pond" (.value (.map [])) SearchOptions.plain Pond.clock)
    (f := fun s => s.predicate.joins) (b := []) (by decide +kernel)
  exact ⟨Bag.single "fish_name" (.str "koi"), result, result', rfl, rfl, h, h', hjoins, hjoins'⟩

end Compiler

end RelationalSearch
