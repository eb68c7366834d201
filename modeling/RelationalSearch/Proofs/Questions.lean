import RelationalSearch.Proofs.BroadAlone
import RelationalSearch.Proofs.Escapes
import RelationalSearch.Proofs.Grounds
import RelationalSearch.Proofs.Narrowing
import RelationalSearch.Proofs.Operands

/-!
# What a question overlooks

Before it is compiled a search can be asked whether it has anything to look for
(`RelationalSearch.Compiler.finds`). The answer is that of a look-ahead, which goes by
keys, and a look-ahead knows the broad-search parameter only when it comes by itself. So
there are searches that filter and of which the question says that they do not.

The main statement is when this happens (`RelationalSearch.Compiler.finds_or_overlooks`).
Either the parameter is there and other parameters beside it, none of which leads to a
column: the entity is searched broadly, or the parameter comes back to the entity by
itself through relations, where the question does not look twice and the search does, or
the relations of a broad search are named by a blank text, which the question leaves out
(`RelationalSearch.Compiler.Overlooks`). Or the parameter is to be ignored and a relation
takes its key for one of its own. What parameters of columns ask for is never denied, and
neither is a broad search by itself.

The relation through which a search filters is looked into by both, but not from the same
place: the search has visited the entity, and the question has it on its path.
-/

namespace RelationalSearch

/-! ### What is asked for relations by name -/

/-- The relations that a request names for a broad search are the same without its blank
parameters, unless they are named by a blank text. -/
theorem requestedRelations_nonBlank {bag : Bag} {requested requested' : List String}
    (h : requestedRelations bag = .ok requested)
    (h' : requestedRelations bag.nonBlank = .ok requested') :
    requested' = requested ∨ ∃ s, bag.get broadRelationsKey = .str s ∧ Text.isBlank s = true ∧
      requested ⊆ [s] ∧ requested' = [] := by
  cases hget : bag.get? broadRelationsKey with
  | none =>
    have hsame : bag.nonBlank.get? broadRelationsKey = bag.get? broadRelationsKey := by
      rw [Bag.get?_nonBlank, hget, Option.filter_none]
    rw [requestedRelations_congr hsame, h] at h'
    exact Or.inl (Except.ok.inj h').symm
  | some v =>
    by_cases hblank : v.isBlank = true
    · -- A blank value is left out, and then no relation is named.
      have hnull : bag.nonBlank.get broadRelationsKey = .null := by
        rw [Bag.get, Bag.get?_nonBlank, hget, Option.filter_some_neg (by simpa using hblank)]
        rfl
      have hvalue : bag.get broadRelationsKey = v := by rw [Bag.get, hget]; rfl
      rw [requestedRelations, hnull] at h'
      rw [requestedRelations, hvalue] at h
      cases h'
      cases v with
      | str s =>
        refine Or.inr ⟨s, hvalue, hblank, ?_, rfl⟩
        cases h
        split
        · exact List.nil_subset _
        · exact List.Subset.refl _
      | list items | tuple items | map entries | bag entries =>
        simp only [Value.isBlank, List.isEmpty_iff] at hblank
        subst hblank
        cases h
        exact Or.inl rfl
      | null | bool | int | float | bytes | date | datetime | object => cases hblank
    · have hsame : bag.nonBlank.get? broadRelationsKey = bag.get? broadRelationsKey := by
        rw [Bag.get?_nonBlank, hget, Option.filter_some_pos (by simpa using hblank)]
      rw [requestedRelations_congr hsame, h] at h'
      exact Or.inl (Except.ok.inj h').symm

/-- Blank parameters are in no scope, so they can be left out before. -/
theorem Scope.apply_nonBlank (scope : Scope) (bag : Bag) :
    scope.apply bag.nonBlank = scope.apply bag := by
  have htwice : (bag.without scope.excluded).nonBlank.nonBlank =
      (bag.without scope.excluded).nonBlank := by
    refine Bag.ext ?_
    simp [Bag.nonBlank, Bag.filter]
  rw [Scope.apply, Scope.apply, ← Bag.nonBlank_without, htwice]

/-! ### What a walk filters by -/

namespace SearchContext

variable {c : SearchContext} {e target : Entity} {bag : Bag} {ignoreBroad : Bool} {left : Nat}
  {visited path : List String} {name : String} {follow : Bool} {requested : List String}

/-- A look-ahead is the same with another choice of relations for a broad search that
makes no difference for the relations of the entities. -/
theorem findsAny_spreading
    (h : ∀ e ∈ c.registry.entities, ∀ name ∈ e.spec.allowedRelations,
      (c.spreading follow requested).propagates e name = c.propagates e name)
    (he : e ∈ c.registry.entities) :
    (c.spreading follow requested).findsAny visited left e bag ignoreBroad path =
      c.findsAny visited left e bag ignoreBroad path := by
  induction left generalizing e bag ignoreBroad path with
  | zero => rfl
  | succ left ih =>
    have hbelow : e.spec.allowedRelations.anyM
          ((c.spreading follow requested).findsBelow visited left e bag ignoreBroad path) =
        e.spec.allowedRelations.anyM (c.findsBelow visited left e bag ignoreBroad path) := by
      refine anyM_congr fun name hname => ?_
      have hcarries : (c.spreading follow requested).carriesBroad e ignoreBroad name =
          c.carriesBroad e ignoreBroad name := by rw [carriesBroad, h e he name hname, carriesBroad]
      have hreaching : (c.spreading follow requested).reaching e bag ignoreBroad name =
          c.reaching e bag ignoreBroad name := by rw [reaching, hcarries]; rfl
      rcases hrelation : c.registry.relation e name with err | ⟨relation, target⟩
      · have hrelation' : (c.spreading follow requested).registry.relation e name = .error err :=
          hrelation
        simp only [findsBelow, hrelation, hrelation', bind, Except.bind]
      · rw [findsBelow_of_relation hrelation,
          findsBelow_of_relation (c := c.spreading follow requested) hrelation, hcarries, hreaching,
          ih (Registry.registered_of_relation hrelation).mem]
    rw [findsAny_succ, findsAny_succ, hbelow]
    rfl

/-- **What the columns of an entity are filtered by**: a parameter of one of them, or the
broad-search parameter. -/
theorem of_ownPredicate_nonempty {own : Group}
    (hown : c.ownPredicate e bag ignoreBroad = .ok own) (hnonempty : own.isEmpty = false) :
    (∃ columns, c.columns e = .ok columns ∧
        ∃ key ∈ (c.ownParameters e bag ignoreBroad).keys, key ∈ columns) ∨
      (ignoreBroad = false ∧ (c.ownParameters e bag ignoreBroad).filled c.broadKey = true) := by
  obtain ⟨table, htable, rfl⟩ := exists_of_map_ok hown
  cases hbroad : !ignoreBroad && (c.ownParameters e bag ignoreBroad).filled c.broadKey with
  | true => exact Or.inr (by simpa using hbroad)
  | false =>
    rw [hbroad] at hnonempty
    have hcolumns : c.columns e =
        .ok (Catalog.searchable table e.spec.excludedKeys c.columnAlias) := by
      rw [columns, htable]
      rfl
    obtain ⟨column, hcolumn⟩ := exists_mem_partitionColumns hnonempty
    exact Or.inl ⟨_, hcolumns, column, mem_keys_of_partitionColumns hcolumn,
      mem_of_partitionColumns hcolumn⟩

/-- **What a walk filters by**: the columns of its entity, or a relation that it enters. -/
theorem walk_nonempty (left : Nat) (e : Entity) (bag : Bag) (ignoreBroad : Bool)
    (visited : List String) :
    Ends (fun w => w.predicate.isEmpty = false →
        (∃ own, c.ownPredicate e bag ignoreBroad = .ok own ∧ own.isEmpty = false) ∨
          ∃ name ∈ e.spec.allowedRelations, ∃ relation target seen,
            c.registry.relation e name = .ok (relation, target) ∧
              c.entersRelation seen left target (c.reaching e bag ignoreBroad name)
                (c.carriesBroad e ignoreBroad name) = .ok true)
      (fun _ => True) (c.walk (left + 1) e bag ignoreBroad visited).value := by
  refine ends_walk (fun _ w => w.predicate.isEmpty = false → _) (fun _ _ => trivial)
    (fun own hown hnonempty => Or.inl ⟨own, hown, hnonempty⟩) fun done name found hname hfound => ?_
  refine ends_hop (fun _ _ => trivial) (fun _ _ _ _ _ => trivial) (fun _ _ _ _ => hfound)
    fun relation target hrelation henters => ?_
  refine Ends.intro (fun below _ _ => ?_) fun _ _ => trivial
  exact Or.inr ⟨name, hname, relation, target, found.visited, hrelation, henters⟩

/-- Parameters arrive at registered entities. -/
theorem Arrives.registered {way : List Relation} {last : Entity} {inner : Bag} {ignored : Bool}
    (h : c.Arrives e bag ignoreBroad way last inner ignored) (he : c.registry.Registered e) :
    c.registry.Registered last := by
  induction h with
  | here => exact he
  | through hrelation _ ih => exact ih (Registry.registered_of_relation hrelation)

end SearchContext

/-! ### Questions and searches -/

/-- **Whether a source holds parameters under keys**, and is not a bare value or a list of
them. -/
def Source.Keyed : Source → Prop
  | .value v => v.mapping?.isSome = true
  | _ => True

/-- A search and a question read the same parameters from it. -/
theorem Source.searchInput_of_keyed {source : Source} (h : source.Keyed) (broadKey : String) :
    source.searchInput broadKey = source.toBag := by
  cases source with
  | value v =>
    cases v with
    | map | bag => rfl
    | _ => cases h
  | _ => rfl

namespace Compiler

/-- **How a question overlooks what a search filters by**, for an entity that is asked for
parameters; the last argument is whether the broad-search parameter is ignored. -/
inductive Overlooks (c : Compiler) (catalog : Catalog) (e : Entity) (bag : Bag) : Bool → Prop
  /-- The entity is searched broadly. -/
  | broadly (h : (c.scopedTo e.spec.excludedKeys "" false bag).filled c.settings.broadKey = true) :
      Overlooks c catalog e bag false
  /-- The broad-search parameter comes back to the entity by itself. -/
  | returning {requested : List String} {relation : Relation} {way : List Relation} {inner : Bag}
      {ignored : Bool} (hrequested : requestedRelations bag = .ok requested)
      (harrives : (c.context SearchOptions.plain requested catalog).Arrives e bag false
        (relation :: way) e inner ignored)
      (halone : inner.only [c.settings.broadKey] = true) :
      Overlooks c catalog e bag false
  /-- A relation of a broad search is named by a blank text. -/
  | blankly {s : String} {owner : Entity} (hget : bag.get broadRelationsKey = .str s)
      (hblank : Text.isBlank s = true) (howner : owner ∈ c.registry.entities)
      (hallowed : s ∈ owner.spec.allowedRelations) :
      Overlooks c catalog e bag false
  /-- The broad-search parameter is ignored, and a relation takes it for one of its own. -/
  | owned {name : String} (hname : name ∈ e.spec.allowedRelations)
      (howns : Scope.Owns (scopeKey name) c.settings.broadKey)
      (hmem : c.settings.broadKey ∈ bag.nonBlank.keys) :
      Overlooks c catalog e bag true

variable {c : Compiler} {catalog : Catalog} {entity : String} {e : Entity} {source : Source}
  {bag : Bag} {clock : Clock} {requested requested' : List String}

/-- The surroundings of two requests differ in the relations that are named for a broad
search. -/
theorem context_requesting (requested requested' : List String) :
    c.context SearchOptions.plain requested' catalog =
      (c.context SearchOptions.plain requested catalog).spreading false requested' := rfl

/-- **A question is a look-ahead** from its entity for those parameters that say
something. -/
theorem look_of_finds {ignoreBroad found : Bool} (hentity : c.registry.get entity = .ok e)
    (hbag : source.toBag = .ok bag) (h : c.finds catalog entity source ignoreBroad = .ok found) :
    ∃ requested, requestedRelations (c.scopedTo [] "" ignoreBroad bag) = .ok requested ∧
      (c.context SearchOptions.plain requested catalog).findsAny [] (c.settings.maxDepth + 1) e
        (c.scopedTo [] "" ignoreBroad bag) ignoreBroad [] = .ok found := by
  rw [finds_eq] at h
  obtain ⟨request, hrequest, hlook⟩ := exists_of_bind_ok h
  simp only [prepareQuestion, hentity, hbag, bind, Except.bind, Except.mapError] at hrequest
  cases hrequested : requestedRelations (c.scopedTo [] "" ignoreBroad bag) with
  | error fault =>
    rw [hrequested] at hrequest
    cases hrequest
  | ok requested =>
    rw [hrequested] at hrequest
    cases hrequest
    exact ⟨requested, rfl, ok_of_mapError_ok hlook⟩

/-- The parameters that say something where the broad-search parameter is ignored. -/
theorem mem_entries_ignoring {key : String} {value : Value} :
    (key, value) ∈ (c.scopedTo [] "" true bag).entries ↔
      (key, value) ∈ bag.entries ∧ value.isBlank = false ∧ key ≠ c.settings.broadKey ∧
        key ≠ "" := by
  have hwritten : Scope.written (Text.trim "") key = key := rfl
  rw [scopedTo, Scope.mem_entries_apply rfl, hwritten]
  exact and_congr_right fun _ => and_iff_right List.not_mem_nil

/-- **What is found with the broad-search parameter ignored is found with it too.** -/
theorem not_look_ignoring
    (hnot : (c.context SearchOptions.plain requested catalog).findsAny []
      (c.settings.maxDepth + 1) e bag.nonBlank false [] = .ok false) :
    (c.context SearchOptions.plain requested' catalog).findsAny [] (c.settings.maxDepth + 1) e
      (c.scopedTo [] "" true bag) true [] ≠ .ok true := by
  intro hfound
  have honly : (c.context SearchOptions.plain requested' catalog).onlyBroad bag.nonBlank =
      false := by
    rcases SearchContext.of_findsAny_false hnot with ⟨hback, -⟩ | ⟨-, -, -, hnew, -⟩
    · exact absurd hback List.not_mem_nil
    · rw [Bool.eq_false_iff]
      exact fun hback => List.not_mem_nil (hnew rfl hback)
  rw [context_requesting requested' requested] at hnot
  refine SearchContext.findsAny_of_keyedIn (fun key value hm => ?_) honly hfound hnot
  obtain ⟨hbag, hblank, -⟩ := mem_entries_ignoring.mp hm
  exact ⟨value, List.mem_filter.mpr ⟨hbag, by simpa using hblank⟩, id⟩

/-- Where the broad-search parameter is ignored, a relation that does not take it for one of
its own is reached by the parameters that say something as by all. -/
theorem keyedIn_of_not_owned {name : String}
    (h : ¬(Scope.Owns (scopeKey name) c.settings.broadKey ∧
      c.settings.broadKey ∈ bag.nonBlank.keys)) :
    ((c.context SearchOptions.plain requested catalog).reaching e bag true name).KeyedIn
      ((c.context SearchOptions.plain requested catalog).reaching e (c.scopedTo [] "" true bag) true
        name) := by
  intro key value hm
  obtain ⟨hwritten, hblank, hbroad, hempty⟩ := SearchContext.mem_relationParameters.mp hm
  refine ⟨value, SearchContext.mem_relationParameters.mpr ⟨?_, hblank, hbroad, hempty⟩, id⟩
  refine mem_entries_ignoring.mpr ⟨hwritten, hblank, ?_, ?_⟩
  · -- Written with the name of the scope in front, the key would be owned by it.
    intro hkey
    rw [Scope.written] at hkey
    split at hkey
    next => exact hbroad hkey
    next hname =>
      refine h ⟨⟨by simpa [scopeName] using hname, key, hkey.symm⟩, ?_⟩
      rw [Scope.written, if_neg hname, hkey] at hwritten
      exact Bag.mem_keys_of_mem (List.mem_filter.mpr ⟨hwritten, by simpa using hblank⟩)
  · intro hkey
    rw [Scope.written] at hkey
    split at hkey
    next => exact hempty hkey
    next =>
      have hmem := Scope.underscore_mem (scopeName name) key
      rw [hkey] at hmem
      exact absurd hmem List.not_mem_nil

/-- A question and a search look into the same relations for a broad search, unless the
relations are named by a blank text. -/
theorem look_with_requested {left : Nat} {visited path : List String} {found : Bool}
    (he : e ∈ c.registry.entities) (hrequested : requestedRelations bag = .ok requested)
    (hrequested' : requestedRelations bag.nonBlank = .ok requested')
    (hlook : (c.context SearchOptions.plain requested' catalog).findsAny visited left e bag.nonBlank
      false path = .ok found) :
    (c.context SearchOptions.plain requested catalog).findsAny visited left e bag.nonBlank false
        path = .ok found ∨ c.Overlooks catalog e bag false := by
  rcases requestedRelations_nonBlank hrequested hrequested' with
    rfl | ⟨s, hget, hblank, hsub, rfl⟩
  · exact Or.inl hlook
  · by_cases hallowed : ∃ owner ∈ c.registry.entities, s ∈ owner.spec.allowedRelations
    · obtain ⟨owner, howner, hs⟩ := hallowed
      exact Or.inr (.blankly hget hblank howner hs)
    · -- No relation has the blank name, so it makes no difference.
      refine Or.inl ?_
      rw [context_requesting requested [],
        SearchContext.findsAny_spreading (fun owner howner name hname => ?_) he] at hlook
      · exact hlook
      · have hnot : requested.contains name = false := by
          rw [Bool.eq_false_iff, Ne, List.contains_iff_mem]
          intro hmem
          rw [List.mem_singleton.mp (hsub hmem)] at hname
          exact hallowed ⟨owner, howner, hname⟩
        show (false || (owner.spec.qRelations.contains name || [].contains name)) =
          (false || (owner.spec.qRelations.contains name || requested.contains name))
        rw [hnot]
        rfl

/-- **What a question overlooks with the broad-search parameter**, when the search of its
entity filters by something. -/
theorem overlooks_of_walk {walked : Walked} (he : c.registry.Registered e)
    (hrequested : requestedRelations bag = .ok requested)
    (hwalked : ((c.context SearchOptions.plain requested catalog).walk (c.settings.maxDepth + 1) e
      bag false []).value = .ok walked)
    (hfilters : walked.predicate.isEmpty = false)
    (hlook : (c.context SearchOptions.plain requested catalog).findsAny []
      (c.settings.maxDepth + 1) e bag.nonBlank false [] = .ok false) :
    c.Overlooks catalog e bag false := by
  rcases SearchContext.of_findsAny_false hlook with
    ⟨hback, -⟩ | ⟨columns, hcolumns, hkeys, -, hbelow⟩
  · exact absurd hback List.not_mem_nil
  · rcases (SearchContext.walk_nonempty _ _ _ _ _).of_ok hwalked hfilters with
      ⟨own, hown, hnonempty⟩ | ⟨name, hname, relation, target, seen, hrelation, henters⟩
    · rcases SearchContext.of_ownPredicate_nonempty hown hnonempty with
        ⟨columns', hcolumns', key, hkey, hcolumn⟩ | ⟨-, hfilled⟩
      · obtain rfl : columns' = columns := Except.ok.inj (hcolumns'.symm.trans hcolumns)
        -- A parameter of a column would have answered the question.
        obtain ⟨value, hm⟩ := Bag.mem_keys.mp hkey
        obtain ⟨hbag, -, hblank⟩ := Scope.mem_entries_kept.mp hm
        refine absurd hcolumn (hkeys key (Bag.mem_keys_of_mem (v := value) ?_))
        exact List.mem_filter.mpr ⟨hbag, by simpa using hblank⟩
      · exact .broadly hfilled
    · obtain ⟨hempty, -, hfound⟩ := SearchContext.of_entersRelation henters
      have hnot := hbelow name hname
      rw [SearchContext.findsBelow_of_relation hrelation, SearchContext.reaching_eq_apply,
        Scope.apply_nonBlank, ← SearchContext.reaching_eq_apply,
        if_neg (by rw [hempty]; decide)] at hnot
      -- The question has the entity on its path, and the search has it among the visits.
      have hpath : ∀ x ∈ [e.name], x ∈ [] ∨ x = e.name := fun x hx =>
        Or.inr (List.mem_singleton.mp hx)
      obtain ⟨way, last, inner, ignored, harrives, hlast, halone⟩ :=
        SearchContext.arrives_alone_of_findsAny (fun x hx => absurd hx List.not_mem_nil) hpath
          hfound hnot
      have hregistered : c.registry.Registered last :=
        harrives.registered (Registry.registered_of_relation hrelation)
      obtain rfl : last = e := hregistered.eq_of_name he hlast
      exact .returning hrequested (.through hrelation harrives) halone

/-- **What a question overlooks without it**: only what a relation has taken for its own. -/
theorem overlooks_of_walk_ignoring {walked : Walked}
    (hwalked : ((c.context SearchOptions.plain requested catalog).walk (c.settings.maxDepth + 1) e
      bag true []).value = .ok walked)
    (hfilters : walked.predicate.isEmpty = false)
    (hlook : (c.context SearchOptions.plain requested' catalog).findsAny []
      (c.settings.maxDepth + 1) e (c.scopedTo [] "" true bag) true [] = .ok false) :
    c.Overlooks catalog e bag true := by
  rcases SearchContext.of_findsAny_false hlook with
    ⟨hback, -⟩ | ⟨columns, hcolumns, hkeys, -, hbelow⟩
  · exact absurd hback List.not_mem_nil
  · rcases (SearchContext.walk_nonempty _ _ _ _ _).of_ok hwalked hfilters with
      ⟨own, hown, hnonempty⟩ | ⟨name, hname, relation, target, seen, hrelation, henters⟩
    · rcases SearchContext.of_ownPredicate_nonempty hown hnonempty with
        ⟨columns', hcolumns', key, hkey, hcolumn⟩ | ⟨hignored, -⟩
      · obtain rfl : columns' = columns := Except.ok.inj (hcolumns'.symm.trans hcolumns)
        obtain ⟨value, hm⟩ := Bag.mem_keys.mp hkey
        obtain ⟨hbag, -, hkept⟩ := SearchContext.mem_ownParameters.mp hm
        refine absurd hcolumn (hkeys key (Bag.mem_keys_of_mem (v := value) ?_))
        exact mem_entries_ignoring.mpr ⟨hbag, hkept⟩
      · cases hignored
    · by_cases howns : Scope.Owns (scopeKey name) c.settings.broadKey ∧
        c.settings.broadKey ∈ bag.nonBlank.keys
      · exact .owned hname howns.1 howns.2
      · obtain ⟨hempty, -, hfound⟩ := SearchContext.of_entersRelation henters
        have hkeyed : ((c.context SearchOptions.plain requested catalog).reaching e bag true
            name).KeyedIn ((c.context SearchOptions.plain requested catalog).reaching e
              (c.scopedTo [] "" true bag) true name) := keyedIn_of_not_owned howns
        -- So something reaches the relation in the question too.
        obtain ⟨key, hkey⟩ := Bag.exists_mem_keys hempty
        obtain ⟨value, hm⟩ := Bag.mem_keys.mp hkey
        obtain ⟨value', hm', -⟩ := hkeyed key value hm
        have hempty' : ((c.context SearchOptions.plain requested' catalog).reaching e
            (c.scopedTo [] "" true bag) true name).isEmpty = false :=
          Bag.isEmpty_eq_false (Bag.mem_keys_of_mem hm')
        have hnot := hbelow name hname
        rw [SearchContext.findsBelow_of_relation
            (c := c.context SearchOptions.plain requested' catalog) hrelation,
          if_neg (by rw [hempty']; decide), context_requesting requested requested'] at hnot
        exact (SearchContext.findsAny_of_keyedIn hkeyed
          SearchContext.onlyBroad_relationParameters hfound hnot).elim

/-- **What a question overlooks.** A search that filters by something is one of which the
question says so, unless it is overlooked: then the broad-search parameter, if it is not
ignored, is not there by itself, and asked with the parameter ignored the question does not
say so either. So neither a broad search by itself nor a parameter that leads to a column
is ever denied. -/
theorem finds_or_overlooks {ignoreBroad found : Bool} {result : CompiledSearch}
    (hsource : source.Keyed)
    (hcompile : c.compile catalog entity source ⟨false, ignoreBroad, false, false⟩ clock =
      .ok result)
    (hfilters : result.predicate.isEmpty = false)
    (hfinds : c.finds catalog entity source ignoreBroad = .ok found) :
    found = true ∨ ∃ e bag, c.registry.get entity = .ok e ∧ source.toBag = .ok bag ∧
      c.Overlooks catalog e bag ignoreBroad ∧
      (ignoreBroad = false → bag.nonBlank.only [c.settings.broadKey] = false) ∧
      c.finds catalog entity source true ≠ .ok true := by
  cases found with
  | true => exact Or.inl rfl
  | false =>
    obtain ⟨request, walked, table, range, hrequest, hwalked, -, -, rfl⟩ :=
      parts_of_compile hcompile
    obtain ⟨hentity, hbag, hrequested⟩ := parts_of_prepare hrequest
    rw [Source.searchInput_of_keyed hsource] at hbag
    refine Or.inr ⟨request.target, request.bag, hentity, hbag, ?_⟩
    obtain ⟨requested', hrequested', hlook⟩ := look_of_finds hentity hbag hfinds
    cases ignoreBroad with
    | true =>
      refine ⟨overlooks_of_walk_ignoring hwalked hfilters hlook,
        fun hc => absurd hc (by decide), ?_⟩
      rw [hfinds]
      decide
    | false =>
      rw [scopedTo_unnamed] at hrequested' hlook
      have hregistered := Registry.registered_of_get hentity
      refine ⟨?_, fun _ => ?_, fun hc => ?_⟩
      · rcases look_with_requested hregistered.mem hrequested hrequested' hlook with hlook | hblank
        · exact overlooks_of_walk hregistered hrequested hwalked hfilters hlook
        · exact hblank
      · rcases SearchContext.of_findsAny_false hlook with ⟨hback, -⟩ | ⟨-, -, -, hnew, -⟩
        · exact absurd hback List.not_mem_nil
        · rw [Bool.eq_false_iff]
          exact fun hback => List.not_mem_nil (hnew rfl hback)
      · obtain ⟨ignoring, -, hfound⟩ := look_of_finds hentity hbag hc
        exact not_look_ignoring hlook hfound

end Compiler

/-- A broad search for fish, in the order of their names. -/
def Pond.sorted : Source := .value (.map [(.str "q", .str "koi"), (.str "sort", .str "name")])

namespace Compiler

/-- A broad search that is sorted is overlooked. -/
theorem finds_or_overlooks_pond :
    Pond.sorted.Keyed ∧ ∃ result,
      Pond.compiler.compile Pond.catalog "Fish" Pond.sorted ⟨false, false, false, false⟩
          Pond.clock = .ok result ∧
        result.predicate.isEmpty = false ∧
        Pond.compiler.finds Pond.catalog "Fish" Pond.sorted false = .ok false ∧
        ∃ e bag, Pond.registry.get "Fish" = .ok e ∧ Pond.sorted.toBag = .ok bag ∧
          Pond.compiler.Overlooks Pond.catalog e bag false ∧
          bag.nonBlank.only ["q"] = false ∧
          Pond.compiler.finds Pond.catalog "Fish" Pond.sorted true ≠ .ok true := by
  obtain ⟨result, h, hfilters⟩ := exists_of_map_ok (x := Pond.compiler.compile Pond.catalog "Fish"
    Pond.sorted ⟨false, false, false, false⟩ Pond.clock) (f := fun r => r.predicate.isEmpty)
    (b := false) (by decide +kernel)
  have hkeyed : Pond.sorted.Keyed := rfl
  have hfinds : Pond.compiler.finds Pond.catalog "Fish" Pond.sorted false = .ok false := by
    decide +kernel
  obtain ⟨e, bag, hentity, hbag, hoverlooks, hbeside, hignoring⟩ :=
    (finds_or_overlooks hkeyed h hfilters hfinds).resolve_left (by decide)
  exact ⟨hkeyed, result, h, hfilters, hfinds, e, bag, hentity, hbag, hoverlooks, hbeside rfl,
    hignoring⟩

/-- **A question can deny what a search filters by**: with an order beside it, a broad
search is not seen. -/
theorem not_finds_of_sorted :
    ¬∀ result, Pond.compiler.compile Pond.catalog "Fish" Pond.sorted SearchOptions.plain
        Pond.clock = .ok result → result.predicate.isEmpty = false →
      ∀ found, Pond.compiler.finds Pond.catalog "Fish" Pond.sorted false = .ok found →
        found = true := by
  intro h
  obtain ⟨result, hresult, hfilters⟩ := exists_of_map_ok (x := Pond.compiler.compile Pond.catalog
    "Fish" Pond.sorted SearchOptions.plain Pond.clock) (f := fun r => r.predicate.isEmpty)
    (b := false) (by decide +kernel)
  have hfound := h result hresult hfilters false (by decide +kernel)
  cases hfound

end Compiler

end RelationalSearch
