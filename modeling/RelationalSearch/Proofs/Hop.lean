import RelationalSearch.Proofs.Composition
import RelationalSearch.Proofs.Graph
import RelationalSearch.Proofs.Outcome
import RelationalSearch.Search.Walk

/-!
# One relation of a walk

A walk makes the predicate of an entity's own columns and then takes the
relations of the entity one after the other. What it does with one relation is a
step on what has been found so far, `RelationalSearch.SearchContext.hop`, and the
walk is a loop of these steps (`RelationalSearch.SearchContext.walk_succ`).

Everything a step can do is said once, in
`RelationalSearch.SearchContext.ends_hop`: it fails because the relation does not
resolve, because the look-ahead fails or because the walk below fails; it leaves
what has been found as it is; or it joins the walk below to it. An invariant of
the walk then needs to be carried through these cases only
(`RelationalSearch.SearchContext.ends_walk`).
-/

namespace RelationalSearch

namespace SearchContext

variable (c : SearchContext)

/-- Whether the broad-search parameter goes into a relation. -/
def carriesBroad (e : Entity) (ignoreBroad : Bool) (name : String) : Bool :=
  !ignoreBroad && c.propagates e name

/-- The parameters that reach a relation. -/
def reaching (e : Entity) (bag : Bag) (ignoreBroad : Bool) (name : String) : Bag :=
  c.relationParameters bag name !(c.carriesBroad e ignoreBroad name)

/-- The scope in which the parameters of a relation are written. -/
def relationScope (e : Entity) (ignoreBroad : Bool) (name : String) : Scope :=
  ⟨[], scopeKey name, !(c.carriesBroad e ignoreBroad name), c.broadKey⟩

theorem reaching_eq_apply (e : Entity) (bag : Bag) (ignoreBroad : Bool) (name : String) :
    c.reaching e bag ignoreBroad name = (c.relationScope e ignoreBroad name).apply bag := rfl

/-- What has been found so far, joined with what the walk below a relation has
found. -/
def joined (e : Entity) (bag : Bag) (ignoreBroad : Bool) (name : String) (relation : Relation)
    (target : Entity) (found below : Walked) : Walked :=
  ⟨Group.of (c.relationConnective e name (c.carriesBroad e ignoreBroad name)
      (c.reaching e bag ignoreBroad name))
    [found.predicate.toPredicate, Group.related relation target.table below.predicate],
    below.visited⟩

/-- **One step of a walk**: what it does with one relation of an entity. -/
def hop (left : Nat) (e : Entity) (bag : Bag) (ignoreBroad : Bool) (found : Walked)
    (name : String) : Except SearchError Walked := do
  let (relation, target) ← c.registry.relation e name
  let broad := c.carriesBroad e ignoreBroad name
  let inner := c.reaching e bag ignoreBroad name
  if ← c.entersRelation found.visited left target inner broad then do
    let below ← (c.walk left target inner (!broad) found.visited).value
    return c.joined e bag ignoreBroad name relation target found below
  else return found

variable {c}

/-- What has been found keeps its semi-joins; the new one and those inside it come
after them. -/
theorem semiJoins_joined {e target : Entity} {bag : Bag} {ignoreBroad : Bool} {name : String}
    {relation : Relation} {found below : Walked} :
    (c.joined e bag ignoreBroad name relation target found below).predicate.semiJoins =
      found.predicate.semiJoins ++ ⟨[], relation, target.table, below.predicate⟩ ::
        below.predicate.semiJoins.map (SemiJoin.inside relation) := by
  rw [joined, Group.semiJoins_of, Predicate.semiJoinsIn, Predicate.semiJoinsIn,
    Predicate.semiJoinsIn, List.append_nil, Group.semiJoins_toPredicate, Group.semiJoins_related]

/-- **A walk is a loop of steps**: it begins with the predicate of the entity's
own columns. -/
theorem walk_succ (left : Nat) (e : Entity) (bag : Bag) (ignoreBroad : Bool)
    (visited : List String) :
    (c.walk (left + 1) e bag ignoreBroad visited).value =
      (c.ownPredicate e bag ignoreBroad).bind fun own =>
        e.spec.allowedRelations.foldlM (c.hop left e bag ignoreBroad)
          ⟨own, noteVisit visited e.name⟩ := by
  rw [walk, Narrated.value_bind, Narrated.value_silent]
  refine congrArg _ (funext fun own => ?_)
  -- The two loops agree because their bodies do, up to the lines that are logged.
  rw [Narrated.value_foldlM]
  refine congrArg (fun f => List.foldlM f _ e.spec.allowedRelations) ?_
  funext found name
  rw [Narrated.value_bind, Narrated.value_silent, hop]
  refine congrArg (Except.bind _) (funext fun ⟨relation, target⟩ => ?_)
  rw [Narrated.value_bind, Narrated.value_silent]
  refine congrArg (Except.bind _) (funext fun enters => ?_)
  cases enters with
  | false => rfl
  | true =>
    simp only [if_true, Narrated.value_bind, Narrated.value_say]
    rfl

section Spec

variable {left : Nat} {e : Entity} {bag : Bag} {ignoreBroad : Bool} {found : Walked}
  {name : String} {visited : List String} {ok : Walked → Prop} {failed : SearchError → Prop}

/-- **What one step can do.** -/
theorem ends_hop
    (hunresolved : ∀ err, c.registry.relation e name = .error err → failed err)
    (hlook : ∀ relation target err, c.registry.relation e name = .ok (relation, target) →
      c.entersRelation found.visited left target (c.reaching e bag ignoreBroad name)
        (c.carriesBroad e ignoreBroad name) = .error err → failed err)
    (hskip : ∀ relation target, c.registry.relation e name = .ok (relation, target) →
      c.entersRelation found.visited left target (c.reaching e bag ignoreBroad name)
        (c.carriesBroad e ignoreBroad name) = .ok false → ok found)
    (henter : ∀ relation target, c.registry.relation e name = .ok (relation, target) →
      c.entersRelation found.visited left target (c.reaching e bag ignoreBroad name)
        (c.carriesBroad e ignoreBroad name) = .ok true →
      Ends (fun below => ok (c.joined e bag ignoreBroad name relation target found below)) failed
        (c.walk left target (c.reaching e bag ignoreBroad name)
          (!(c.carriesBroad e ignoreBroad name)) found.visited).value) :
    Ends ok failed (c.hop left e bag ignoreBroad found name) := by
  rw [hop]
  refine Ends.bind (Ends.intro ?_ hunresolved)
  rintro ⟨relation, target⟩ hrelation
  refine Ends.bind (Ends.intro ?_ fun err => hlook relation target err hrelation)
  intro enters henters
  cases enters with
  | false => exact .result (hskip relation target hrelation henters)
  | true =>
    exact Ends.bind ((henter relation target hrelation henters).mono (fun _ h => .result h)
      fun _ h => h)

/-- **What one step with a result has done.** -/
theorem of_hop {next : Walked} (h : c.hop left e bag ignoreBroad found name = .ok next) :
    ∃ relation target, c.registry.relation e name = .ok (relation, target) ∧
      ((c.entersRelation found.visited left target (c.reaching e bag ignoreBroad name)
          (c.carriesBroad e ignoreBroad name) = .ok false ∧ next = found) ∨
        (c.entersRelation found.visited left target (c.reaching e bag ignoreBroad name)
            (c.carriesBroad e ignoreBroad name) = .ok true ∧
          ∃ below, (c.walk left target (c.reaching e bag ignoreBroad name)
              (!(c.carriesBroad e ignoreBroad name)) found.visited).value = .ok below ∧
            next = c.joined e bag ignoreBroad name relation target found below)) := by
  rw [hop] at h
  obtain ⟨⟨relation, target⟩, hrelation, h⟩ := exists_of_bind_ok h
  obtain ⟨enters, henters, h⟩ := exists_of_bind_ok h
  refine ⟨relation, target, hrelation, ?_⟩
  cases enters with
  | false =>
    cases h
    exact Or.inl ⟨henters, rfl⟩
  | true =>
    obtain ⟨below, hbelow, h⟩ := exists_of_bind_ok h
    cases h
    exact Or.inr ⟨henters, below, hbelow, rfl⟩

/-- **What two steps with results have done** that take the same relation and enter it
both or not at all, perhaps in different surroundings: nothing, or they have joined what
the two walks below have found. -/
theorem of_hop_pair {c' : SearchContext} {bag' : Bag} {ignored : Bool}
    {found' next next' : Walked} (h : c.hop left e bag ignoreBroad found name = .ok next)
    (h' : c'.hop left e bag' ignored found' name = .ok next')
    (hregistry : c'.registry = c.registry)
    (henters : ∀ relation target, c.registry.relation e name = .ok (relation, target) →
      c'.entersRelation found'.visited left target (c'.reaching e bag' ignored name)
          (c'.carriesBroad e ignored name) =
        c.entersRelation found.visited left target (c.reaching e bag ignoreBroad name)
          (c.carriesBroad e ignoreBroad name)) :
    (next = found ∧ next' = found') ∨
      ∃ relation target below below', c.registry.relation e name = .ok (relation, target) ∧
        (c.walk left target (c.reaching e bag ignoreBroad name)
          (!(c.carriesBroad e ignoreBroad name)) found.visited).value = .ok below ∧
        (c'.walk left target (c'.reaching e bag' ignored name) (!(c'.carriesBroad e ignored name))
          found'.visited).value = .ok below' ∧
        next = c.joined e bag ignoreBroad name relation target found below ∧
        next' = c'.joined e bag' ignored name relation target found' below' := by
  obtain ⟨relation, target, hrelation, hdone⟩ := of_hop h
  obtain ⟨relation', target', hrelation', hdone'⟩ := of_hop h'
  rw [hregistry] at hrelation'
  cases hrelation.symm.trans hrelation'
  rw [henters relation target hrelation] at hdone'
  rcases hdone with ⟨hskip, rfl⟩ | ⟨henter, below, hbelow, rfl⟩
  · rcases hdone' with ⟨-, rfl⟩ | ⟨henter', -⟩
    · exact Or.inl ⟨rfl, rfl⟩
    · cases hskip.symm.trans henter'
  · rcases hdone' with ⟨hskip', -⟩ | ⟨-, below', hbelow', rfl⟩
    · cases hskip'.symm.trans henter
    · exact Or.inr ⟨relation, target, below, below', hrelation, hbelow, hbelow', rfl, rfl⟩

/-- **What carries through a walk**: an invariant that the entity's own columns
establish and that every step passes on. -/
theorem ends_walk (inv : List String → Walked → Prop)
    (hown : ∀ err, c.ownPredicate e bag ignoreBroad = .error err → failed err)
    (hstart : ∀ own, c.ownPredicate e bag ignoreBroad = .ok own →
      inv [] ⟨own, noteVisit visited e.name⟩)
    (hhop : ∀ done name found, name ∈ e.spec.allowedRelations → inv done found →
      Ends (inv (done ++ [name])) failed (c.hop left e bag ignoreBroad found name)) :
    Ends (inv e.spec.allowedRelations) failed
      (c.walk (left + 1) e bag ignoreBroad visited).value := by
  rw [walk_succ]
  exact Ends.bind (Ends.intro (fun own h => Ends.foldlM inv (hstart own h) hhop) hown)

end Spec

/-! ### The parameters that reach a relation -/

section Reaching

variable {e : Entity} {bag : Bag} {ignoreBroad : Bool} {name key : String} {value : Value}

/-- **Where the keys that reach a relation come from**: they had the scope name in
front, or it is the broad-search parameter, which went through. -/
theorem mem_keys_reaching (h : key ∈ (c.reaching e bag ignoreBroad name).keys) :
    (Scope.written (scopeName name) key ∈ bag.keys ∧
        (c.carriesBroad e ignoreBroad name = false → key ≠ c.broadKey)) ∨
      (c.carriesBroad e ignoreBroad name = true ∧ key = c.broadKey ∧ key ∈ bag.keys) := by
  rw [reaching, relationParameters] at h
  have hsource := Scope.mem_keys_apply h
  rw [Bool.not_eq_true', Bool.not_eq_false'] at hsource
  exact hsource

/-- What reaches a relation comes from the bag. -/
theorem from_reaching (c : SearchContext) (e : Entity) (bag : Bag) (ignoreBroad : Bool)
    (name : String) : (c.reaching e bag ignoreBroad name).From bag := by
  rw [reaching_eq_apply]
  exact Scope.from_apply _ _

/-- The broad-search parameter reaches only the relations that it goes into. -/
theorem carriesBroad_of_mem (h : c.broadKey ∈ (c.reaching e bag ignoreBroad name).keys) :
    c.carriesBroad e ignoreBroad name = true := by
  rcases mem_keys_reaching h with ⟨-, hbroad⟩ | ⟨hcarries, -⟩
  · by_contra hcarries
    exact hbroad (by simpa using hcarries) rfl
  · exact hcarries

/-- Nothing reaches a relation out of an empty bag. -/
theorem isEmpty_of_reaching (h : (c.reaching e bag ignoreBroad name).isEmpty = false) :
    bag.isEmpty = false := by
  obtain ⟨key, hkey⟩ := Bag.exists_mem_keys h
  rcases mem_keys_reaching hkey with ⟨hbag, -⟩ | ⟨-, -, hbag⟩
  · exact Bag.isEmpty_eq_false hbag
  · exact Bag.isEmpty_eq_false hbag

/-! Without the broad-search parameter what reaches a relation is a matter of
single parameters. -/

@[simp] theorem carriesBroad_ignoring : c.carriesBroad e true name = false := rfl

@[simp] theorem reaching_ignoring :
    c.reaching e bag true name = c.relationParameters bag name true := rfl

theorem mem_relationParameters :
    (key, value) ∈ (c.relationParameters bag name true).entries ↔
      (Scope.written (scopeName name) key, value) ∈ bag.entries ∧ value.isBlank = false ∧
        key ≠ c.broadKey ∧ key ≠ "" := by
  rw [relationParameters, Scope.mem_entries_apply rfl]
  exact and_congr_right fun _ => and_iff_right List.not_mem_nil

theorem mem_ownParameters :
    (key, value) ∈ (c.ownParameters e bag true).entries ↔
      (key, value) ∈ bag.entries ∧ key ∉ e.spec.excludedKeys ∧ value.isBlank = false ∧
        key ≠ c.broadKey ∧ key ≠ "" := by
  have hwritten : Scope.written (Text.trim "") key = key := rfl
  rw [ownParameters, Scope.mem_entries_apply rfl, hwritten]

/-- Without it a bag never holds nothing but it. -/
theorem onlyBroad_relationParameters :
    c.onlyBroad (c.relationParameters bag name true) = false := by
  rw [Bool.eq_false_iff]
  intro h
  obtain ⟨v, hv⟩ := Bag.mem_keys.mp (Bag.only_singleton.mp h).1
  exact (mem_relationParameters.mp hv).2.2.1 rfl

end Reaching

/-! ### Looking ahead -/

/-- One step of a look-ahead: whether it finds anything in one relation. -/
def findsBelow (c : SearchContext) (visited : List String) (left : Nat) (e : Entity) (bag : Bag)
    (ignoreBroad : Bool) (path : List String) (name : String) : Except SearchError Bool := do
  let (_, target) ← c.registry.relation e name
  let inner := c.reaching e bag ignoreBroad name
  if inner.isEmpty then return false
  else c.findsAny visited left target inner (!(c.carriesBroad e ignoreBroad name)) (e.name :: path)

section LookAhead

variable {left : Nat} {e : Entity} {bag : Bag} {ignoreBroad : Bool} {visited path : List String}

/-- **A look-ahead asks one relation after the other**, unless the entity itself
answers. -/
theorem findsAny_succ :
    c.findsAny visited (left + 1) e bag ignoreBroad path =
      if path.contains e.name && c.onlyBroad bag then .ok false
      else (c.columns e).bind fun columns =>
        if bag.keys.any columns.contains then .ok true
        else if !ignoreBroad && c.onlyBroad bag && !visited.contains e.name then .ok true
        else e.spec.allowedRelations.anyM (c.findsBelow visited left e bag ignoreBroad path) := rfl

/-- A look-ahead into a relation that resolves goes on from its target, unless no
parameter reaches it. -/
theorem findsBelow_of_relation {name : String} {relation : Relation} {target : Entity}
    (h : c.registry.relation e name = .ok (relation, target)) :
    c.findsBelow visited left e bag ignoreBroad path name =
      if (c.reaching e bag ignoreBroad name).isEmpty then .ok false
      else c.findsAny visited left target (c.reaching e bag ignoreBroad name)
        (!(c.carriesBroad e ignoreBroad name)) (e.name :: path) := by
  simp only [findsBelow, h, bind, Except.bind, pure, Except.pure]

/-- **What a look-ahead can fail with**: the table of the entity is missing, a
relation does not resolve, or the look-ahead from its target fails. -/
theorem ends_findsAny {failed : SearchError → Prop}
    (hcolumns : ∀ err, c.columns e = .error err → failed err)
    (hunresolved : ∀ name err, c.registry.relation e name = .error err → failed err)
    (hbelow : ∀ name relation target, c.registry.relation e name = .ok (relation, target) →
      ¬(e.name ∈ path ∧ c.onlyBroad bag = true) →
      (c.reaching e bag ignoreBroad name).isEmpty = false →
      Ends (fun _ => True) failed
        (c.findsAny visited left target (c.reaching e bag ignoreBroad name)
          (!(c.carriesBroad e ignoreBroad name)) (e.name :: path))) :
    Ends (fun _ => True) failed (c.findsAny visited (left + 1) e bag ignoreBroad path) := by
  rw [findsAny_succ]
  split
  next => exact .result trivial
  next hback =>
    refine Ends.bind (Ends.intro (fun columns _ => ?_) hcolumns)
    split
    next => exact .result trivial
    next =>
      split
      next => exact .result trivial
      next =>
        refine Ends.anyM fun name _ => ?_
        rcases hrelation : c.registry.relation e name with err | ⟨relation, target⟩
        · have hfailed := hunresolved name err hrelation
          simp only [findsBelow, hrelation, bind, Except.bind]
          exact .failure hfailed
        · rw [findsBelow_of_relation hrelation]
          split
          next => exact .result trivial
          next hempty =>
            refine hbelow name relation target hrelation ?_ (by simpa using hempty)
            rwa [Bool.and_eq_true_iff, List.contains_iff_mem] at hback

/-- A broad search answers at once for an entity that it has not visited. -/
theorem findsAny_of_not_mem (honly : c.onlyBroad bag = true) (hnew : e.name ∉ visited) :
    c.findsAny visited (left + 1) e bag false [] = (c.columns e).bind fun _ => .ok true := by
  rw [findsAny_succ, List.contains_nil, Bool.false_and, if_neg (by decide)]
  refine congrArg _ (funext fun columns => ?_)
  split
  next => rfl
  next => rw [if_pos (by simpa [honly] using hnew)]

/-- **What a look-ahead without an answer has seen**: it came back to an entity
with nothing but the broad-search parameter, or there is no parameter for a
column, no new entity for a broad search, and nothing in any relation. -/
theorem of_findsAny_false (h : c.findsAny visited (left + 1) e bag ignoreBroad path = .ok false) :
    (e.name ∈ path ∧ c.onlyBroad bag = true) ∨
      ∃ columns, c.columns e = .ok columns ∧ (∀ k ∈ bag.keys, k ∉ columns) ∧
        (ignoreBroad = false → c.onlyBroad bag = true → e.name ∈ visited) ∧
        ∀ name ∈ e.spec.allowedRelations,
          c.findsBelow visited left e bag ignoreBroad path name = .ok false := by
  rw [findsAny_succ] at h
  split at h
  next hback =>
    obtain ⟨hpath, honly⟩ := Bool.and_eq_true_iff.mp hback
    exact Or.inl ⟨List.contains_iff_mem.mp hpath, honly⟩
  next =>
    obtain ⟨columns, hcolumns, h⟩ := exists_of_bind_ok h
    split at h
    · cases h
    next hkeys =>
      split at h
      · cases h
      next hbroad =>
        -- Neither of the two quick answers was given, so all relations were asked.
        refine Or.inr ⟨columns, hcolumns, fun k hk hc => hkeys ?_, fun hi honly => ?_,
          forall_of_anyM_false h⟩
        · exact List.any_eq_true.mpr ⟨k, hk, List.contains_iff_mem.mpr hc⟩
        · by_contra hvisited
          refine hbroad ?_
          simp [hi, honly, hvisited]

/-- **What a look-ahead with an answer has seen**, which is not one that came back with
nothing but the broad-search parameter: a parameter for a column, a new entity for a
broad search, or something in one of the relations. -/
theorem of_findsAny_true (h : c.findsAny visited (left + 1) e bag ignoreBroad path = .ok true) :
    ¬(e.name ∈ path ∧ c.onlyBroad bag = true) ∧ ∃ columns, c.columns e = .ok columns ∧
      ((∃ k ∈ bag.keys, k ∈ columns) ∨
        (ignoreBroad = false ∧ c.onlyBroad bag = true ∧ e.name ∉ visited) ∨
        ∃ name ∈ e.spec.allowedRelations,
          c.findsBelow visited left e bag ignoreBroad path name = .ok true) := by
  rw [findsAny_succ] at h
  split at h
  next => cases h
  next hback =>
    obtain ⟨columns, hcolumns, h⟩ := exists_of_bind_ok h
    refine ⟨by simpa using hback, columns, hcolumns, ?_⟩
    split at h
    next hkeys =>
      obtain ⟨k, hk, hcolumn⟩ := List.any_eq_true.mp hkeys
      exact Or.inl ⟨k, hk, List.contains_iff_mem.mp hcolumn⟩
    next =>
      split at h
      next hnew => exact Or.inr (Or.inl (by simpa [and_assoc] using hnew))
      next => exact Or.inr (Or.inr (exists_of_anyM_true h))

/-- **A relation in which something is found** resolves, and its share finds it. -/
theorem of_findsBelow_true {name : String}
    (h : c.findsBelow visited left e bag ignoreBroad path name = .ok true) :
    ∃ relation target, c.registry.relation e name = .ok (relation, target) ∧
      (c.reaching e bag ignoreBroad name).isEmpty = false ∧
        c.findsAny visited left target (c.reaching e bag ignoreBroad name)
          (!(c.carriesBroad e ignoreBroad name)) (e.name :: path) = .ok true := by
  rcases hrelation : c.registry.relation e name with err | ⟨relation, target⟩
  · simp only [findsBelow, hrelation, bind, Except.bind, reduceCtorEq] at h
  · rw [findsBelow_of_relation hrelation] at h
    split at h
    next => cases h
    next hempty => exact ⟨relation, target, rfl, by simpa using hempty, h⟩

/-- **When a relation is searched**: a parameter reaches it, it is no broad search of
an entity that has been visited, and the look-ahead finds something. -/
theorem of_entersRelation {target : Entity} {inner : Bag} {broad : Bool}
    (h : c.entersRelation visited left target inner broad = .ok true) :
    inner.isEmpty = false ∧ ¬(c.onlyBroad inner = true ∧ target.name ∈ visited) ∧
      c.findsAny visited left target inner (!broad) [] = .ok true := by
  rw [entersRelation] at h
  split at h
  · cases h
  next hempty =>
    split at h
    · cases h
    next hvisited =>
      refine ⟨by simpa using hempty, ?_, h⟩
      rwa [Bool.and_eq_true_iff, List.contains_iff_mem] at hvisited

theorem ends_entersRelation {target : Entity} {inner : Bag} {broad : Bool}
    {failed : SearchError → Prop}
    (h : inner.isEmpty = false → ¬(c.onlyBroad inner = true ∧ target.name ∈ visited) →
      Ends (fun _ => True) failed (c.findsAny visited left target inner (!broad) [])) :
    Ends (fun _ => True) failed (c.entersRelation visited left target inner broad) := by
  rw [entersRelation]
  split
  next => exact .result trivial
  next hempty =>
    split
    next => exact .result trivial
    next hvisited =>
      refine h (by simpa using hempty) ?_
      rwa [Bool.and_eq_true_iff, List.contains_iff_mem] at hvisited

end LookAhead

/-! ### Visits -/

theorem mem_noteVisit {visited : List String} {name x : String} :
    x ∈ noteVisit visited name ↔ x = name ∨ x ∈ visited := by
  rw [noteVisit]
  split
  next h =>
    rw [List.contains_iff_mem] at h
    exact ⟨Or.inr, fun hx => hx.elim (fun hx => hx ▸ h) id⟩
  next => rw [List.mem_append, List.mem_singleton, or_comm]

theorem noteVisit_of_not_mem {visited : List String} {name : String} (h : name ∉ visited) :
    noteVisit visited name = visited ++ [name] := by
  rw [noteVisit, if_neg (by rwa [List.contains_iff_mem])]

theorem nodup_noteVisit {visited : List String} (h : visited.Nodup) (name : String) :
    (noteVisit visited name).Nodup := by
  by_cases hname : name ∈ visited
  · rwa [noteVisit, if_pos (List.contains_iff_mem.mpr hname)]
  · rw [noteVisit_of_not_mem hname, ← List.concat_eq_append]
    exact h.concat hname

/-- **A walk forgets no visit**: it keeps those it is given and adds its entity. -/
theorem visited_walk (left : Nat) (e : Entity) (bag : Bag) (ignoreBroad : Bool)
    (visited : List String) :
    Ends (fun w => e.name ∈ w.visited ∧ visited ⊆ w.visited) (fun _ => True)
      (c.walk left e bag ignoreBroad visited).value := by
  induction left generalizing e bag ignoreBroad visited with
  | zero => exact .failure trivial
  | succ left ih =>
    refine ends_walk (fun _ w => e.name ∈ w.visited ∧ visited ⊆ w.visited)
      (fun _ _ => trivial) (fun own _ => ?_) fun done name found _ hinv => ?_
    · exact ⟨mem_noteVisit.mpr (Or.inl rfl), fun x hx => mem_noteVisit.mpr (Or.inr hx)⟩
    · refine ends_hop (fun _ _ => trivial) (fun _ _ _ _ _ => trivial) (fun _ _ _ _ => hinv)
        fun relation target _ _ => ?_
      refine (ih target _ _ found.visited).mono (fun below hbelow => ?_) fun _ h => h
      exact ⟨hbelow.2 hinv.1, fun x hx => hbelow.2 (hinv.2 hx)⟩

end SearchContext

end RelationalSearch
