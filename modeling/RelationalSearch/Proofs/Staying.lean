import RelationalSearch.Proofs.Narrowing
import RelationalSearch.Proofs.Untaken

/-!
# Where a broad search stays away

The broad-search parameter reaches an entity only along relations that it goes into.
This is a statement on two searches that differ in nothing but this parameter, and
there are several ways in which one search could still tell the other: the scope of a
relation could let the parameter through, a visit that only one of the searches has
made could keep the other from a relation, and a look-ahead asks whether the
parameter is all that is left.

The first way is closed by the alias: without an underscore in it, a scope that drops
the parameter takes the same from both bags
(`RelationalSearch.SearchContext.relationParameters_unaffected`). And where the
parameter is dropped the share of a relation is never the parameter alone, so that a
look-ahead there does not ask for visits
(`RelationalSearch.SearchContext.findsAny_unaffected`), nor does a walk
(`RelationalSearch.SearchContext.walk_unaffected`). What a search finds below a
relation that the parameter does not go into is then the same for both
(`RelationalSearch.SearchContext.hop_beside`).
-/

namespace RelationalSearch

/-! ### The outermost semi-joins -/

/-- The semi-joins of a group that are not inside another one. -/
def Group.outerJoins (g : Group) : List SemiJoin := g.semiJoins.filter fun s => s.around.isEmpty

namespace SearchContext

variable {c : SearchContext} {e target : Entity} {bag bag' : Bag} {name : String} {left : Nat}

theorem outerJoins_joined {ignoreBroad : Bool} {relation : Relation} {found below : Walked} :
    (c.joined e bag ignoreBroad name relation target found below).predicate.outerJoins =
      found.predicate.outerJoins ++ [⟨[], relation, target.table, below.predicate⟩] := by
  have hinside : (below.predicate.semiJoins.map (SemiJoin.inside relation)).filter
      (fun s => s.around.isEmpty) = [] := by
    rw [List.filter_eq_nil_iff]
    intro s hs
    obtain ⟨s', -, rfl⟩ := List.mem_map.mp hs
    exact Bool.false_ne_true
  rw [Group.outerJoins, semiJoins_joined, List.filter_append, List.filter_cons_of_pos rfl, hinside]
  rfl

/-- Whether a semi-join is what a relation of an entity is joined by. -/
def IsFor (c : SearchContext) (e : Entity) (name : String) (s : SemiJoin) : Prop :=
  ∃ target, c.registry.relation e name = .ok (s.relation, target) ∧ s.targetTable = target.table

/-- **The outermost semi-joins of an entity's predicate, each with the relation it was
made for.** Two relations may be declared alike, so that this is not to be seen from
the semi-joins; but they come in the order of the relations, at most one for each. -/
structure Outermost (c : SearchContext) (e : Entity) (names : List String)
    (joins : List (String × SemiJoin)) : Prop where
  sublist : (joins.map Prod.fst).Sublist names
  isFor : ∀ j ∈ joins, c.IsFor e j.1 j.2

theorem Outermost.nil : c.Outermost e [] [] :=
  ⟨List.Sublist.refl _, fun _ h => absurd h List.not_mem_nil⟩

/-- One relation more has a semi-join or has none. -/
theorem Outermost.cons {names : List String} {joins : List (String × SemiJoin)}
    (h : c.Outermost e names joins) {added : Option SemiJoin}
    (hadded : ∀ s, added = some s → c.IsFor e name s) :
    c.Outermost e (name :: names) (added.toList.map (Prod.mk name) ++ joins) := by
  cases added with
  | none => exact ⟨h.sublist.cons name, h.isFor⟩
  | some s =>
    refine ⟨h.sublist.cons_cons name, fun j hj => ?_⟩
    rcases List.mem_cons.mp hj with rfl | hj
    · exact hadded s rfl
    · exact h.isFor j hj

end SearchContext

/-! ### Scopes that drop the broad-search parameter -/

namespace Scope

variable {scope : Scope} {bag bag' : Bag}

/-- No scope that drops the broad-search parameter takes it under another key. -/
theorem takes_broadKey (hignore : scope.ignoreBroad = true)
    (halias : '_' ∉ scope.broadKey.toList) : scope.takes scope.broadKey = false := by
  have hkey : keyWithin? (Text.trim scope.name) true scope.broadKey scope.broadKey = none := by
    refine Option.eq_none_iff_forall_ne_some.mpr fun k hk => ?_
    obtain ⟨hwritten, hne, -⟩ := keyWithin?_ignoring.mp hk
    rw [written] at hwritten
    split at hwritten
    · exact hne hwritten.symm
    · rw [hwritten] at halias
      exact halias (underscore_mem _ _)
  simp [takes, hignore, hkey]

/-- **What such a scope takes does not depend on the broad-search parameter.** -/
theorem apply_unaffected (hignore : scope.ignoreBroad = true)
    (halias : '_' ∉ scope.broadKey.toList)
    (hsame : bag.without [scope.broadKey] = bag'.without [scope.broadKey]) :
    scope.apply bag = scope.apply bag' := by
  have htakes : ∀ k ∈ [scope.broadKey], scope.takes k = false := fun k hk => by
    rw [List.mem_singleton.mp hk, takes_broadKey hignore halias]
  rw [← apply_without_of_not_takes fun k hk _ => htakes k hk, hsame,
    apply_without_of_not_takes fun k hk _ => htakes k hk]

end Scope

/-! ### Walks without the broad-search parameter -/

namespace SearchContext

variable {c : SearchContext} {e target : Entity} {bag bag' : Bag} {name : String} {left : Nat}
  {visited visited' path path' : List String} {follow : Bool} {requested : List String}

theorem relationParameters_unaffected (halias : '_' ∉ c.broadKey.toList)
    (hsame : bag.without [c.broadKey] = bag'.without [c.broadKey]) :
    c.relationParameters bag name true = c.relationParameters bag' name true :=
  Scope.apply_unaffected rfl halias hsame

theorem ownParameters_unaffected (halias : '_' ∉ c.broadKey.toList)
    (hsame : bag.without [c.broadKey] = bag'.without [c.broadKey]) :
    c.ownParameters e bag true = c.ownParameters e bag' true :=
  Scope.apply_unaffected rfl halias hsame

/-- **A look-ahead without the broad-search parameter does not ask for visits**, nor
for the way it came, nor for the relations of a broad search. -/
theorem findsAny_unaffected (honly : c.onlyBroad bag = false) :
    (c.spreading follow requested).findsAny visited' left e bag true path' =
      c.findsAny visited left e bag true path := by
  induction left generalizing e bag path path' with
  | zero => rfl
  | succ left ih =>
    have honly' : (c.spreading follow requested).onlyBroad bag = false := honly
    simp only [findsAny_succ, honly, honly', Bool.and_false, Bool.false_and, Bool.false_eq_true,
      if_false]
    refine congrArg (Except.bind (c.columns e)) (funext fun columns => ?_)
    refine congrArg (ite _ _) (anyM_congr fun name _ => ?_)
    show Except.bind (c.registry.relation e name) _ = Except.bind (c.registry.relation e name) _
    refine congrArg _ (funext fun ⟨relation, target⟩ => ?_)
    simp only [reaching_ignoring, relationParameters_spreading, carriesBroad_ignoring]
    exact congrArg (ite _ _) (ih onlyBroad_relationParameters)

theorem entersRelation_unaffected (c : SearchContext) (visited : List String) :
    (c.spreading follow requested).entersRelation visited' left target
        (c.relationParameters bag name true) false =
      c.entersRelation visited left target (c.relationParameters bag name true) false := by
  have honly : c.onlyBroad (c.relationParameters bag name true) = false :=
    onlyBroad_relationParameters
  have honly' : (c.spreading follow requested).onlyBroad (c.relationParameters bag name true) =
      false := honly
  rw [entersRelation, entersRelation, honly, honly', Bool.not_false, findsAny_unaffected honly]
  rfl

/-- **So it is with a walk.** Its predicate does not depend on visits, and its visits
only on those that it begins with. -/
theorem walk_unaffected {walked walked' : Walked}
    (hwalk : (c.walk left e bag true visited).value = .ok walked)
    (hwalk' : ((c.spreading follow requested).walk left e bag true visited').value =
      .ok walked') :
    walked.predicate = walked'.predicate ∧
      (visited = visited' → walked.visited = walked'.visited) := by
  induction left generalizing e bag visited visited' walked walked' with
  | zero => cases hwalk
  | succ left ih =>
    rw [walk_succ] at hwalk hwalk'
    obtain ⟨own, hown, hwalk⟩ := exists_of_bind_ok hwalk
    obtain ⟨own', hown', hwalk'⟩ := exists_of_bind_ok hwalk'
    obtain rfl : own = own' := Except.ok.inj (hown.symm.trans hown')
    refine foldlM_pair (R := fun found found' => found.predicate = found'.predicate ∧
      (visited = visited' → found.visited = found'.visited)) ?_
      ⟨rfl, fun h => congrArg (noteVisit · e.name) h⟩ hwalk hwalk'
    rintro name - found found' next next' ⟨hpredicate, hvisited⟩ hhop hhop'
    have henters : ∀ target, (c.spreading follow requested).entersRelation found'.visited left
        target ((c.spreading follow requested).reaching e bag true name)
          ((c.spreading follow requested).carriesBroad e true name) =
        c.entersRelation found.visited left target (c.reaching e bag true name)
          (c.carriesBroad e true name) := fun target => by
      simp only [reaching_ignoring, relationParameters_spreading, carriesBroad_ignoring]
      exact entersRelation_unaffected c found.visited
    rcases of_hop_pair hhop hhop' rfl (fun _ target _ => henters target) with
      ⟨rfl, rfl⟩ | ⟨relation, target, below, below', -, hbelow, hbelow', rfl, rfl⟩
    · exact ⟨hpredicate, hvisited⟩
    · obtain ⟨hsame, hvisits⟩ := ih hbelow hbelow'
      refine ⟨?_, fun h => hvisits (hvisited h)⟩
      show Group.of _ [found.predicate.toPredicate, _] =
        Group.of _ [found'.predicate.toPredicate, _]
      rw [hpredicate, hsame]
      rfl

/-! ### Two walks that differ in the broad-search parameter -/

/-- The columns of an entity bring no semi-join. -/
theorem outerJoins_ownPredicate {ignoreBroad : Bool} {own : Group}
    (h : c.ownPredicate e bag ignoreBroad = .ok own) : own.outerJoins = [] := by
  rw [Group.outerJoins, semiJoins_ownPredicate h, List.filter_nil]

/-- What a step does to the outermost semi-joins: it adds one for its relation, or
none. -/
theorem outerJoins_hop {ignoreBroad : Bool} {found next : Walked}
    (h : c.hop left e bag ignoreBroad found name = .ok next) :
    ∃ added : Option SemiJoin,
      next.predicate.outerJoins = found.predicate.outerJoins ++ added.toList ∧
        ∀ s, added = some s → c.IsFor e name s := by
  obtain ⟨relation, target, hrelation, ⟨-, rfl⟩ | ⟨-, below, -, rfl⟩⟩ := of_hop h
  · exact ⟨none, (List.append_nil _).symm, fun s h => absurd h.symm (Option.some_ne_none s)⟩
  · refine ⟨some ⟨[], relation, target.table, below.predicate⟩, outerJoins_joined, ?_⟩
    rintro s ⟨⟩
    exact ⟨target, hrelation, rfl⟩

/-- **A relation that the broad-search parameter does not go into** gets the same
semi-join in two walks whose bags differ in this parameter, or gets none in both;
what the walks have found before, and the entities they have visited, may differ. -/
theorem hop_beside {found found' next next' : Walked} (halias : '_' ∉ c.broadKey.toList)
    (hsame : bag.without [c.broadKey] = bag'.without [c.broadKey])
    (hstays : c.propagates e name = false)
    (hhop : c.hop left e bag false found name = .ok next)
    (hhop' : c.hop left e bag' false found' name = .ok next') :
    ∃ added : Option SemiJoin,
      next.predicate.outerJoins = found.predicate.outerJoins ++ added.toList ∧
        next'.predicate.outerJoins = found'.predicate.outerJoins ++ added.toList ∧
        ∀ s, added = some s → c.IsFor e name s := by
  have hcarries : c.carriesBroad e false name = false := hstays
  have hreaching : c.reaching e bag false name = c.relationParameters bag name true := by
    rw [reaching, hcarries, Bool.not_false]
  have hreaching' : c.reaching e bag' false name = c.relationParameters bag name true := by
    rw [reaching, hcarries, Bool.not_false, relationParameters_unaffected halias hsame]
  have henters : ∀ target, c.entersRelation found'.visited left target
      (c.reaching e bag' false name) (c.carriesBroad e false name) =
        c.entersRelation found.visited left target (c.reaching e bag false name)
          (c.carriesBroad e false name) := fun target => by
    rw [hreaching, hreaching', hcarries]
    exact entersRelation_unaffected c found.visited
  rcases of_hop_pair hhop hhop' rfl (fun _ target _ => henters target) with
    ⟨rfl, rfl⟩ | ⟨relation, target, below, below', hrelation, hbelow, hbelow', rfl, rfl⟩
  · exact ⟨none, (List.append_nil _).symm, (List.append_nil _).symm,
      fun s h => absurd h.symm (Option.some_ne_none s)⟩
  · rw [hreaching, hcarries] at hbelow
    rw [hreaching', hcarries] at hbelow'
    have hpredicate : below.predicate = below'.predicate :=
      (walk_unaffected (c := c) hbelow hbelow').1
    refine ⟨some ⟨[], relation, target.table, below.predicate⟩, outerJoins_joined, ?_, ?_⟩
    · rw [outerJoins_joined, hpredicate]
      rfl
    · rintro s ⟨⟩
      exact ⟨target, hrelation, rfl⟩

/-- **Two loops over the relations of an entity** add the same semi-joins for the
relations that the broad-search parameter does not go into. -/
theorem foldlM_hop_beside {names : List String} {found found' walked walked' : Walked}
    (halias : '_' ∉ c.broadKey.toList)
    (hsame : bag.without [c.broadKey] = bag'.without [c.broadKey])
    (hloop : names.foldlM (c.hop left e bag false) found = .ok walked)
    (hloop' : names.foldlM (c.hop left e bag' false) found' = .ok walked') :
    ∃ joins joins', c.Outermost e names joins ∧ c.Outermost e names joins' ∧
      walked.predicate.outerJoins = found.predicate.outerJoins ++ joins.map Prod.snd ∧
      walked'.predicate.outerJoins = found'.predicate.outerJoins ++ joins'.map Prod.snd ∧
      ∀ name, c.propagates e name = false →
        joins.filter (fun j => j.1 == name) = joins'.filter (fun j => j.1 == name) := by
  induction names generalizing found found' with
  | nil =>
    cases hloop
    cases hloop'
    exact ⟨[], [], .nil, .nil, (List.append_nil _).symm, (List.append_nil _).symm,
      fun _ _ => rfl⟩
  | cons first names ih =>
    rw [List.foldlM_cons] at hloop hloop'
    obtain ⟨next, hhop, hloop⟩ := exists_of_bind_ok hloop
    obtain ⟨next', hhop', hloop'⟩ := exists_of_bind_ok hloop'
    obtain ⟨joins, joins', hjoins, hjoins', houter, houter', hrest⟩ := ih hloop hloop'
    have hsnd : ∀ (added : Option SemiJoin) (joins : List (String × SemiJoin)),
        (added.toList.map (Prod.mk first) ++ joins).map Prod.snd =
          added.toList ++ joins.map Prod.snd := fun added joins => by
      rw [List.map_append, List.map_map]
      exact congrArg (· ++ _) (List.map_id _)
    cases hstays : c.propagates e first with
    | false =>
      obtain ⟨added, hadded, hadded', hmade⟩ := hop_beside halias hsame hstays hhop hhop'
      refine ⟨_, _, hjoins.cons hmade, hjoins'.cons hmade, ?_, ?_, fun name hname => ?_⟩
      · rw [houter, hadded, hsnd, List.append_assoc]
      · rw [houter', hadded', hsnd, List.append_assoc]
      · rw [List.filter_append, List.filter_append, hrest name hname]
    | true =>
      obtain ⟨added, hadded, hmade⟩ := outerJoins_hop hhop
      obtain ⟨added', hadded', hmade'⟩ := outerJoins_hop hhop'
      refine ⟨_, _, hjoins.cons hmade, hjoins'.cons hmade', ?_, ?_, fun name hname => ?_⟩
      · rw [houter, hadded, hsnd, List.append_assoc]
      · rw [houter', hadded', hsnd, List.append_assoc]
      · -- What is added is for a relation that the parameter goes into, so for another one.
        have hother : ∀ added : Option SemiJoin,
            (added.toList.map (Prod.mk first)).filter (fun j => j.1 == name) = [] := fun added => by
          have hne : first ≠ name := fun h => by rw [h, hname] at hstays; cases hstays
          rw [List.filter_eq_nil_iff]
          intro j hj
          obtain ⟨s, -, rfl⟩ := List.mem_map.mp hj
          simpa using hne
        rw [List.filter_append, List.filter_append, hother, hother, hrest name hname]

end SearchContext

/-! ### Searches -/

namespace Compiler

/-- **A broad search reaches only where it may.** Of two requests that differ in
nothing but the broad-search parameter, both of which can be compiled:

* when the parameter is overlooked, they have the same predicate and the same visits,
  whether or not a broad search would go into every relation;
* when it is not, the semi-joins of the entity itself are the same for every relation
  that the parameter does not go into. -/
theorem compile_beside_broad {c : Compiler} {catalog : Catalog} {entity : String} {e : Entity}
    {source source' : Source} {options options' : SearchOptions} {clock clock' : Clock}
    {bag bag' : Bag} {requested : List String} {result result' : CompiledSearch}
    (hentity : c.registry.get entity = .ok e) (halias : '_' ∉ c.settings.broadKey.toList)
    (hbag : source.searchInput c.settings.broadKey = .ok bag)
    (hbag' : source'.searchInput c.settings.broadKey = .ok bag')
    (hsame : bag.without [c.settings.broadKey] = bag'.without [c.settings.broadKey])
    (hrequested : requestedRelations bag = .ok requested)
    (h : c.compile catalog entity source options clock = .ok result)
    (h' : c.compile catalog entity source' options' clock' = .ok result') :
    (options.ignoreBroad = true →
        options' = { options with followRelations := options'.followRelations } →
      result.predicate = result'.predicate ∧ result.visited = result'.visited) ∧
    (options.ignoreBroad = false → options' = options →
      ∃ joins joins',
        (c.context options requested catalog).Outermost e e.spec.allowedRelations joins ∧
        (c.context options requested catalog).Outermost e e.spec.allowedRelations joins' ∧
        result.predicate.outerJoins = joins.map Prod.snd ∧
        result'.predicate.outerJoins = joins'.map Prod.snd ∧
        ∀ name, options.followRelations = false → name ∉ e.spec.qRelations → name ∉ requested →
          joins.filter (fun j => j.1 == name) = joins'.filter (fun j => j.1 == name)) := by
  obtain ⟨request, walked, table, range, hrequest, hwalked, -, -, rfl⟩ := parts_of_compile h
  obtain ⟨request', walked', table', range', hrequest', hwalked', -, -, rfl⟩ := parts_of_compile h'
  -- Neither the entity nor the relations that are named for a broad search differ.
  have hkey : c.settings.broadKey ≠ broadRelationsKey := fun hc => halias (by rw [hc]; decide)
  have hrequested' : requestedRelations bag' = .ok requested := by
    rw [← requestedRelations_without hkey, ← hsame, requestedRelations_without hkey, hrequested]
  rw [prepare_of_searchInput hentity hbag, hrequested] at hrequest
  rw [prepare_of_searchInput hentity hbag', hrequested'] at hrequest'
  cases hrequest
  cases hrequest'
  refine ⟨fun hignore hoptions => ?_, fun hignore hoptions => ?_⟩
  · -- The two bags say the same, and only the surroundings differ.
    rw [requestWalk, hignore, SearchContext.walk_congr
      (SearchContext.ownParameters_unaffected halias hsame)
      (fun _ _ => SearchContext.relationParameters_unaffected halias hsame)] at hwalked
    rw [requestWalk, hoptions, hignore] at hwalked'
    obtain ⟨hpredicate, hvisited⟩ := SearchContext.walk_unaffected
      (c := c.context options requested catalog) hwalked hwalked'
    exact ⟨hpredicate, congrArg sortedNames (hvisited rfl)⟩
  · rw [requestWalk, hignore, SearchContext.walk_succ] at hwalked
    rw [requestWalk, hoptions, hignore, SearchContext.walk_succ] at hwalked'
    obtain ⟨own, hown, hloop⟩ := exists_of_bind_ok hwalked
    obtain ⟨own', hown', hloop'⟩ := exists_of_bind_ok hwalked'
    obtain ⟨joins, joins', hjoins, hjoins', houter, houter', hstays⟩ :=
      SearchContext.foldlM_hop_beside halias hsame hloop hloop'
    rw [SearchContext.outerJoins_ownPredicate hown, List.nil_append] at houter
    rw [SearchContext.outerJoins_ownPredicate hown', List.nil_append] at houter'
    refine ⟨joins, joins', hjoins, hjoins', houter, houter', fun name hfollow hown hasked => ?_⟩
    refine hstays name ?_
    simp [SearchContext.propagates, SearchContext.isBroadRelation, context, hfollow, hown, hasked]

end Compiler

namespace Pond

/-- A request for the fish of a pond. -/
def fishNamed : Source := .value (.map [(.str "fish_name", .str "koi")])

/-- The same request with a broad search beside it. -/
def fishNamedBesideBroad : Source :=
  .value (.map [(.str "q", .str "mere"), (.str "fish_name", .str "koi")])

end Pond

namespace Compiler

/-- What a broad search of a pond asks for has no say in what is asked of its fish. -/
theorem compile_beside_broad_pond :
    (∃ result result',
      Pond.compiler.compile Pond.catalog "Pond" Pond.fishNamedBesideBroad Pond.ignoring Pond.clock =
          .ok result ∧
        Pond.compiler.compile Pond.catalog "Pond" Pond.fishNamed ⟨true, true, false, false⟩
          Pond.clock = .ok result' ∧
        result.predicate = result'.predicate ∧ result.visited = result'.visited) ∧
    ∃ (result result' : CompiledSearch) (joins joins' : List (String × SemiJoin)),
      Pond.compiler.compile Pond.catalog "Pond" Pond.fishNamedBesideBroad SearchOptions.plain
          Pond.clock = .ok result ∧
        Pond.compiler.compile Pond.catalog "Pond" Pond.fishNamed SearchOptions.plain Pond.clock =
          .ok result' ∧
        result.predicate.outerJoins = joins.map Prod.snd ∧
        result'.predicate.outerJoins = joins'.map Prod.snd ∧
        joins.filter (fun j => j.1 == "fish") = joins'.filter (fun j => j.1 == "fish") := by
  have hbag : Pond.fishNamedBesideBroad.searchInput "q" =
      .ok ((Bag.single "q" (.str "mere")).put "fish_name" (.str "koi")) := rfl
  have hbag' : Pond.fishNamed.searchInput "q" = .ok (Bag.single "fish_name" (.str "koi")) := rfl
  have hsame : ((Bag.single "q" (.str "mere")).put "fish_name" (.str "koi")).without ["q"] =
      (Bag.single "fish_name" (.str "koi")).without ["q"] := rfl
  have hwith : ∀ options ∈ [Pond.ignoring, SearchOptions.plain], ∃ result,
      Pond.compiler.compile Pond.catalog "Pond" Pond.fishNamedBesideBroad options Pond.clock =
        .ok result := fun options hoptions => exists_of_toBool (by
    revert options hoptions
    decide +kernel)
  have hwithout : ∀ options ∈ [⟨true, true, false, false⟩, SearchOptions.plain], ∃ result,
      Pond.compiler.compile Pond.catalog "Pond" Pond.fishNamed options Pond.clock = .ok result :=
    fun options hoptions => exists_of_toBool (by
      revert options hoptions
      decide +kernel)
  constructor
  · obtain ⟨result, h⟩ := hwith _ List.mem_cons_self
    obtain ⟨result', h'⟩ := hwithout _ List.mem_cons_self
    exact ⟨result, result', h, h',
      (compile_beside_broad (e := Pond.pond) rfl (by decide) hbag hbag' hsame rfl h h').1 rfl rfl⟩
  · obtain ⟨result, h⟩ := hwith SearchOptions.plain (by decide)
    obtain ⟨result', h'⟩ := hwithout SearchOptions.plain (by decide)
    obtain ⟨joins, joins', -, -, houter, houter', hstays⟩ := (compile_beside_broad
      (e := Pond.pond) rfl (by decide) hbag hbag' hsame rfl h h').2 rfl rfl
    exact ⟨result, result', joins, joins', h, h', houter, houter',
      hstays "fish" rfl (by decide) (by decide)⟩

end Compiler

end RelationalSearch
