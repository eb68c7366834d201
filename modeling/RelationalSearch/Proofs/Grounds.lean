import RelationalSearch.Proofs.Leaves
import RelationalSearch.Proofs.Lookup

/-!
# What a semi-join rests on

A relation is searched, and a semi-join made for it, when a look-ahead finds something
to search for. The look-ahead goes by the keys of the parameters, and their values can
still come to nothing: a word is not compared with a column of numbers, a text without
letters and digits makes no pattern, a broad search for nothing is none. Then a
semi-join can hold nothing, and asks only that there is a related row.

This happens in two ways and in no other
(`RelationalSearch.Compiler.compile_rests`). Either the target of the semi-join is
silent (`RelationalSearch.SearchContext.Silent`): a parameter is there for one of its
columns, or the broad-search parameter is, and still nothing is compared. Or it is cut
off (`RelationalSearch.SearchContext.CutOff`): the broad-search parameter reaches a
relation of the target alone, and the walk does not enter that relation because it has
visited its entity, which a look-ahead would pass through.

Otherwise a look-ahead answers for what the walk then does. The two are not asked with
the same visits: the walk has visited the entity that it looks from, which the
look-ahead has on its path instead
(`RelationalSearch.SearchContext.not_findsAny_of_fewer_visits`).
-/

namespace RelationalSearch

namespace SearchContext

variable {c : SearchContext} {e target : Entity} {bag inner : Bag} {ignoreBroad : Bool}
  {left : Nat} {name : String} {visited visited' path path' seen : List String}

/-! ### Where parameters arrive -/

/-- **Where parameters arrive** along relations: the entity, its share of them, and
whether the broad-search parameter is overlooked there. -/
inductive Arrives (c : SearchContext) :
    Entity → Bag → Bool → List Relation → Entity → Bag → Bool → Prop
  /-- They are where they are. -/
  | here (e : Entity) (bag : Bag) (ignoreBroad : Bool) :
      Arrives c e bag ignoreBroad [] e bag ignoreBroad
  /-- A relation hands on its share. -/
  | through {e target last : Entity} {bag inner : Bag} {ignoreBroad ignored : Bool}
      {name : String} {relation : Relation} {way : List Relation} :
      c.registry.relation e name = .ok (relation, target) →
      Arrives c target (c.reaching e bag ignoreBroad name) (!(c.carriesBroad e ignoreBroad name))
        way last inner ignored →
      Arrives c e bag ignoreBroad (relation :: way) last inner ignored

/-- **A look-ahead that has fewer visits to heed finds no less**, where those that it
heeds in addition are on the path of the other one, unless the broad-search parameter
comes by itself to an entity that only the path of this one has. -/
theorem arrives_alone_of_findsAny {only : String → Prop}
    (hvisited : ∀ x ∈ visited', x ∈ visited ∨ x ∈ path)
    (hpath : ∀ x ∈ path', x ∈ path ∨ only x)
    (hfound : c.findsAny visited left e bag ignoreBroad path = .ok true)
    (hnot : c.findsAny visited' left e bag ignoreBroad path' = .ok false) :
    ∃ way last inner ignored, c.Arrives e bag ignoreBroad way last inner ignored ∧
      only last.name ∧ c.onlyBroad inner = true := by
  induction left generalizing e bag ignoreBroad path path' with
  | zero => cases hfound
  | succ left ih =>
    obtain ⟨hback, columns, hcolumns, hgrounds⟩ := of_findsAny_true hfound
    rcases of_findsAny_false hnot with
      ⟨hmem, honly⟩ | ⟨columns', hcolumns', hkeys', hbroad', hrest'⟩
    · rcases hpath _ hmem with hmem | hother
      · exact absurd ⟨hmem, honly⟩ hback
      · exact ⟨[], e, bag, ignoreBroad, .here e bag ignoreBroad, hother, honly⟩
    · obtain rfl : columns = columns' := Except.ok.inj (hcolumns.symm.trans hcolumns')
      rcases hgrounds with ⟨k, hk, hcolumn⟩ | ⟨hcarried, honly, hnew⟩ | ⟨name, hname, hbelow⟩
      · exact absurd hcolumn (hkeys' k hk)
      · exact ((hvisited _ (hbroad' hcarried honly)).elim hnew fun hmem => hback ⟨hmem, honly⟩).elim
      · obtain ⟨relation, target, hrelation, hempty, hbelow⟩ := of_findsBelow_true hbelow
        have hrest := hrest' name hname
        rw [findsBelow_of_relation hrelation, if_neg (by rw [hempty]; decide)] at hrest
        have hpath' : ∀ x ∈ e.name :: path', x ∈ e.name :: path ∨ only x := by
          intro x hx
          rcases List.mem_cons.mp hx with rfl | hx
          · exact Or.inl List.mem_cons_self
          · exact (hpath x hx).imp_left (List.mem_cons_of_mem _)
        obtain ⟨way, last, inner, ignored, harrives, hlast⟩ :=
          ih (fun x hx => (hvisited x hx).imp_right (List.mem_cons_of_mem _)) hpath' hbelow hrest
        exact ⟨relation :: way, last, inner, ignored, .through hrelation harrives, hlast⟩

/-- Where it has no path of its own, it finds no less. -/
theorem not_findsAny_of_fewer_visits (hvisited : ∀ x ∈ visited', x ∈ visited ∨ x ∈ path)
    (hpath : path' ⊆ path)
    (hfound : c.findsAny visited left e bag ignoreBroad path = .ok true) :
    c.findsAny visited' left e bag ignoreBroad path' ≠ .ok false := by
  intro hnot
  have hnowhere : ∀ x ∈ path', x ∈ path ∨ False := fun x hx => Or.inl (hpath hx)
  obtain ⟨-, -, -, -, -, hnone, -⟩ := arrives_alone_of_findsAny hvisited hnowhere hfound hnot
  exact hnone

/-- **An entity is silent** when it is asked for something, by a parameter for one of
its columns or by a broad search, and its columns compare nothing. -/
structure Silent (c : SearchContext) (e : Entity) (bag : Bag) (ignoreBroad : Bool) : Prop where
  asked : (∃ columns, c.columns e = .ok columns ∧ ∃ k ∈ bag.keys, k ∈ columns) ∨
    (ignoreBroad = false ∧ c.broadKey ∈ bag.keys)
  nothing : ∃ own, c.ownPredicate e bag ignoreBroad = .ok own ∧ own.located = []

/-- **An entity is cut off** when nothing but the broad-search parameter reaches one of
its relations, whose target is among the entities that have been seen; the parameter is
not there for the entity itself. -/
structure CutOff (c : SearchContext) (seen : List String) (e : Entity) (bag : Bag)
    (ignoreBroad : Bool) : Prop where
  carried : ignoreBroad = false
  elsewhere : c.broadKey ∉ bag.keys
  alone : ∃ name relation target, c.registry.relation e name = .ok (relation, target) ∧
    c.propagates e name = true ∧ c.onlyBroad (c.reaching e bag false name) = true ∧
      target.name ∈ seen

/-- What a semi-join that holds nothing rests on: its target is silent or cut off. -/
def Rests (c : SearchContext) (seen : List String) (e : Entity) (bag : Bag) (ignoreBroad : Bool)
    (s : SemiJoin) : Prop :=
  s.group.located = [] → s.group.semiJoins = [] → ∃ last inner ignored,
    c.Arrives e bag ignoreBroad (s.around ++ [s.relation]) last inner ignored ∧
      (c.Silent last inner ignored ∨ c.CutOff seen last inner ignored)

/-! ### Walks -/

/-- A walk that has entered no relation so far: what it has found is what the columns
say, and it has entered none of the relations that are done. -/
structure Untouched (c : SearchContext) (left : Nat) (e : Entity) (bag : Bag)
    (ignoreBroad : Bool) (visited done : List String) (found : Walked) : Prop where
  own : c.ownPredicate e bag ignoreBroad = .ok found.predicate
  visited_eq : found.visited = noteVisit visited e.name
  skipped : ∀ name ∈ done, ∀ relation target,
    c.registry.relation e name = .ok (relation, target) →
      c.entersRelation found.visited left target (c.reaching e bag ignoreBroad name)
        (c.carriesBroad e ignoreBroad name) = .ok false

/-- **A walk that enters no relation though a look-ahead found something** is at an
entity that is silent or cut off, unless it compares something. -/
theorem Untouched.silent_or_cutOff {found : Walked}
    (h : c.Untouched left e bag ignoreBroad visited e.spec.allowedRelations found)
    (hfound : c.findsAny visited (left + 1) e bag ignoreBroad [] = .ok true)
    (hnothing : found.predicate.located = []) (hseen : found.visited ⊆ seen) :
    c.Silent e bag ignoreBroad ∨ c.CutOff seen e bag ignoreBroad := by
  have hown : ∃ own, c.ownPredicate e bag ignoreBroad = .ok own ∧ own.located = [] :=
    ⟨found.predicate, h.own, hnothing⟩
  obtain ⟨-, columns, hcolumns, hkeys | ⟨hcarried, honly, -⟩ | ⟨name, hname, hbelow⟩⟩ :=
    of_findsAny_true hfound
  · exact Or.inl ⟨Or.inl ⟨columns, hcolumns, hkeys⟩, hown⟩
  · exact Or.inl ⟨Or.inr ⟨hcarried, (Bag.only_singleton.mp honly).1⟩, hown⟩
  · obtain ⟨relation, target, hrelation, hempty, hbelow⟩ := of_findsBelow_true hbelow
    have hskip := h.skipped name hname relation target hrelation
    rw [entersRelation, if_neg (by rw [hempty]; decide)] at hskip
    split at hskip
    next hvisited =>
      obtain ⟨honly, hmem⟩ := Bool.and_eq_true_iff.mp hvisited
      -- The broad-search parameter has reached the relation, so it is not overlooked here.
      obtain ⟨hcarried, hpropagates⟩ : ignoreBroad = false ∧ c.propagates e name = true := by
        simpa [carriesBroad] using carriesBroad_of_mem (Bag.only_singleton.mp honly).1
      subst hcarried
      by_cases hbroad : c.broadKey ∈ bag.keys
      · exact Or.inl ⟨Or.inr ⟨rfl, hbroad⟩, hown⟩
      · exact Or.inr ⟨rfl, hbroad, name, relation, target, hrelation, hpropagates, honly,
          hseen (List.contains_iff_mem.mp hmem)⟩
    next =>
      refine absurd hskip (not_findsAny_of_fewer_visits (fun x hx => ?_) (List.nil_subset _) hbelow)
      rw [h.visited_eq, mem_noteVisit] at hx
      exact hx.symm.imp_right fun hx => List.mem_singleton.mpr hx

/-- What holds while the relations of an entity are gone through: what the semi-joins so
far rest on, and that without one nothing has happened yet. -/
structure Resting (c : SearchContext) (seen : List String) (left : Nat) (e : Entity) (bag : Bag)
    (ignoreBroad : Bool) (visited done : List String) (found : Walked) : Prop where
  rests : ∀ s ∈ found.predicate.semiJoins, c.Rests seen e bag ignoreBroad s
  untouched : found.predicate.semiJoins = [] →
    c.Untouched left e bag ignoreBroad visited done found

section Step

variable {found below : Walked} {done : List String} {relation : Relation}

theorem Resting.start {own : Group} (hown : c.ownPredicate e bag ignoreBroad = .ok own) :
    c.Resting seen left e bag ignoreBroad visited [] ⟨own, noteVisit visited e.name⟩ where
  rests s hs := by
    rw [semiJoins_ownPredicate hown] at hs
    exact absurd hs List.not_mem_nil
  untouched _ := ⟨hown, rfl, fun _ h => absurd h List.not_mem_nil⟩

/-- A relation is not entered: nothing changes but that it is done. -/
theorem Resting.skip (h : c.Resting seen left e bag ignoreBroad visited done found)
    (hrelation : c.registry.relation e name = .ok (relation, target))
    (hskip : c.entersRelation found.visited left target (c.reaching e bag ignoreBroad name)
      (c.carriesBroad e ignoreBroad name) = .ok false) :
    c.Resting seen left e bag ignoreBroad visited (done ++ [name]) found := by
  refine ⟨h.rests, fun hnone => ?_⟩
  have huntouched := h.untouched hnone
  refine ⟨huntouched.own, huntouched.visited_eq, fun name' hname' => ?_⟩
  intro relation' target' hrelation'
  rcases List.mem_append.mp hname' with hdone | hlast
  · exact huntouched.skipped name' hdone relation' target' hrelation'
  · obtain rfl := List.mem_singleton.mp hlast
    cases hrelation.symm.trans hrelation'
    exact hskip

/-- A relation is entered: its semi-join rests on what its target does, and those inside
it on what they rest on from there. -/
theorem Resting.enter (h : c.Resting seen left e bag ignoreBroad visited done found)
    (hrelation : c.registry.relation e name = .ok (relation, target))
    (hrests : ∀ s ∈ below.predicate.semiJoins, c.Rests seen target
      (c.reaching e bag ignoreBroad name) (!(c.carriesBroad e ignoreBroad name)) s)
    (htarget : below.predicate.located = [] → below.predicate.semiJoins = [] →
      c.Silent target (c.reaching e bag ignoreBroad name) (!(c.carriesBroad e ignoreBroad name)) ∨
        c.CutOff seen target (c.reaching e bag ignoreBroad name)
          (!(c.carriesBroad e ignoreBroad name))) :
    c.Resting seen left e bag ignoreBroad visited (done ++ [name])
      (c.joined e bag ignoreBroad name relation target found below) := by
  refine ⟨fun s hs => ?_, fun hnone => ?_⟩
  · rw [semiJoins_joined] at hs
    rcases List.mem_append.mp hs with hs | hs
    · exact h.rests s hs
    · rcases List.mem_cons.mp hs with rfl | hs
      · exact fun hnothing hnone =>
          ⟨target, _, _, .through hrelation (.here _ _ _), htarget hnothing hnone⟩
      · obtain ⟨s', hs', rfl⟩ := List.mem_map.mp hs
        intro hnothing hnone
        obtain ⟨last, inner, ignored, harrives, hlast⟩ := hrests s' hs' hnothing hnone
        exact ⟨last, inner, ignored, .through hrelation harrives, hlast⟩
  · rw [semiJoins_joined] at hnone
    exact absurd (List.append_eq_nil_iff.mp hnone).2 (List.cons_ne_nil _ _)

end Step

/-- **What the semi-joins of a walk rest on**, and the walk itself when a look-ahead has
found something for it. -/
theorem walk_rests (left : Nat) (e : Entity) (bag : Bag) (ignoreBroad : Bool)
    (visited seen : List String) :
    Ends (fun w => w.visited ⊆ seen →
        (∀ s ∈ w.predicate.semiJoins, c.Rests seen e bag ignoreBroad s) ∧
          (c.findsAny visited left e bag ignoreBroad [] = .ok true →
            w.predicate.located = [] → w.predicate.semiJoins = [] →
              c.Silent e bag ignoreBroad ∨ c.CutOff seen e bag ignoreBroad))
      (fun _ => True) (c.walk left e bag ignoreBroad visited).value := by
  induction left generalizing e bag ignoreBroad visited with
  | zero => exact .failure trivial
  | succ left ih =>
    -- Visits only grow, so that all that has been found has been found within `seen`.
    have hloop : Ends (fun w => w.visited ⊆ seen →
        c.Resting seen left e bag ignoreBroad visited e.spec.allowedRelations w)
        (fun _ => True) (c.walk (left + 1) e bag ignoreBroad visited).value := by
      refine ends_walk (fun done found => found.visited ⊆ seen →
        c.Resting seen left e bag ignoreBroad visited done found) (fun _ _ => trivial)
        (fun own hown _ => .start hown) fun done name found _ hinv => ?_
      refine ends_hop (fun _ _ => trivial) (fun _ _ _ _ _ => trivial)
        (fun relation target hrelation hskip hseen => (hinv hseen).skip hrelation hskip)
        fun relation target hrelation henter => ?_
      obtain ⟨-, -, hfound⟩ := of_entersRelation henter
      refine ((ih target _ _ found.visited).and (visited_walk left target _ _ _)).mono
        (fun below hbelow hseen => ?_) fun _ _ => trivial
      obtain ⟨hrests, htarget⟩ := hbelow.1 hseen
      exact (hinv fun x hx => hseen (hbelow.2.2 hx)).enter hrelation hrests (htarget hfound)
    refine hloop.mono (fun w hw hseen => ⟨(hw hseen).rests, fun hfound hnothing hnone => ?_⟩)
      fun _ h => h
    exact ((hw hseen).untouched hnone).silent_or_cutOff hfound hnothing hseen

end SearchContext

/-! ### Searches -/

namespace Compiler

/-- **What a semi-join rests on.** Every semi-join of a compiled search compares
something, or it is or has inside it one that holds nothing at all; and the target of
every such one is silent or cut off where its share of the parameters arrives. -/
theorem compile_rests {c : Compiler} {catalog : Catalog} {entity : String} {e : Entity}
    {source : Source} {options : SearchOptions} {clock : Clock} {bag : Bag}
    {requested : List String} {result : CompiledSearch}
    (hentity : c.registry.get entity = .ok e)
    (hbag : source.searchInput c.settings.broadKey = .ok bag)
    (hrequested : requestedRelations bag = .ok requested)
    (h : c.compile catalog entity source options clock = .ok result) :
    (∀ s ∈ result.predicate.semiJoins, s.group.located ≠ [] ∨
      ∃ s' ∈ result.predicate.semiJoins,
        s.around ++ [s.relation] <+: s'.around ++ [s'.relation] ∧
        s'.group.located = [] ∧ s'.group.semiJoins = []) ∧
    ∀ s ∈ result.predicate.semiJoins, s.group.located = [] → s.group.semiJoins = [] →
      ∃ last inner ignored,
        (c.context options requested catalog).Arrives e bag options.ignoreBroad
          (s.around ++ [s.relation]) last inner ignored ∧
        ((c.context options requested catalog).Silent last inner ignored ∨
          (c.context options requested catalog).CutOff result.visited last inner ignored) := by
  obtain ⟨request, walked, table, range, hrequest, hwalked, -, -, rfl⟩ := parts_of_compile h
  rw [prepare_of_searchInput hentity hbag, hrequested] at hrequest
  cases hrequest
  constructor
  · intro s hs
    by_cases hnothing : s.group.located = []
    · exact Or.inr (Predicate.exists_innermostIn hnothing walked.predicate.members hs)
    · exact Or.inl hnothing
  · have hseen : walked.visited ⊆ sortedNames walked.visited := fun x hx =>
      mem_sortedNames.mpr hx
    exact ((SearchContext.walk_rests _ _ _ _ _ _).of_ok hwalked hseen).1

end Compiler

namespace Pond

/-- A request for the fish of a pond by a name without letters and digits. -/
def fishUnnamed : Source := .value (.map [(.str "fish_name", .str "?!")])

end Pond

namespace Compiler

/-- A pond with a fish whose name makes no pattern. -/
theorem compile_rests_pond :
    ∃ result,
      Pond.compiler.compile Pond.catalog "Pond" Pond.fishUnnamed SearchOptions.plain Pond.clock =
          .ok result ∧
        (∀ s ∈ result.predicate.semiJoins, s.group.located ≠ [] ∨
          ∃ s' ∈ result.predicate.semiJoins,
            s.around ++ [s.relation] <+: s'.around ++ [s'.relation] ∧
            s'.group.located = [] ∧ s'.group.semiJoins = []) ∧
        ∀ s ∈ result.predicate.semiJoins, s.group.located = [] → s.group.semiJoins = [] →
          ∃ last inner ignored,
            (Pond.compiler.context SearchOptions.plain [] Pond.catalog).Arrives Pond.pond
              (Bag.single "fish_name" (.str "?!")) false (s.around ++ [s.relation]) last inner
              ignored ∧
            ((Pond.compiler.context SearchOptions.plain [] Pond.catalog).Silent last inner
                ignored ∨
              (Pond.compiler.context SearchOptions.plain [] Pond.catalog).CutOff result.visited
                last inner ignored) := by
  obtain ⟨result, h⟩ := exists_of_toBool (x := Pond.compiler.compile Pond.catalog "Pond"
    Pond.fishUnnamed SearchOptions.plain Pond.clock) (by decide +kernel)
  exact ⟨result, h, compile_rests (e := Pond.pond) rfl rfl rfl h⟩

/-- **A semi-join can compare nothing**: the name of a fish that makes no pattern leaves
the question behind whether the pond has any fish. -/
theorem exists_bare_semiJoin :
    ∃ result,
      Pond.compiler.compile Pond.catalog "Pond" Pond.fishUnnamed SearchOptions.plain Pond.clock =
          .ok result ∧
        ∃ s ∈ result.predicate.semiJoins, s.group.located = [] := by
  obtain ⟨result, h, hsizes⟩ := exists_of_map_ok (x := Pond.compiler.compile Pond.catalog "Pond"
    Pond.fishUnnamed SearchOptions.plain Pond.clock)
    (f := fun r => r.predicate.semiJoins.map fun s => s.group.located.length) (b := [0])
    (by decide +kernel)
  obtain ⟨s, hs, hlength⟩ := List.mem_map.mp (hsizes ▸ List.mem_singleton.mpr rfl)
  exact ⟨result, h, s, hs, List.length_eq_zero_iff.mp hlength⟩

end Compiler

end RelationalSearch
