import RelationalSearch.Proofs.Exclusion
import RelationalSearch.Proofs.Span

/-!
# The broad-search parameter by itself

A search for nothing but the broad parameter looks for its value among all searchable
columns of an entity, and the parameter goes into relations as it is or not at all. So
it is never a parameter of one of the columns, and where it is ignored nothing is left of
the search. This is so as long as no relation owns the key of the parameter
(`RelationalSearch.Scope.Owns`): a scope strips its name off every key that begins with
it, before it asks which key is that of the broad search. Under a key such as
`user_name` the parameter reaches a relation with the scope name `user` as the parameter
`name`, whether it is ignored or not (`RelationalSearch.Scope.apply_single_of_owns`).

The name that stands in front is all that matters. A scope that does not own the key
passes the parameter on, or drops it where it is ignored
(`RelationalSearch.Scope.passes_single_iff`), and if none of the relations does, every
comparison is that of a broad search of the entity that it is about
(`RelationalSearch.SearchContext.comparesAs_walk_broadBag`). Both are put together in
`RelationalSearch.Compiler.compile_broad_alone`.
-/

namespace RelationalSearch

namespace Scope

variable {name broadKey rest : String} {v : Value} {ignoreBroad : Bool}

/-! ### One scope -/

/-- **Whether a key is written like the keys of a scope**: the name of the scope stands in
front of it. -/
def Owns (name key : String) : Prop :=
  Text.trim name ≠ "" ∧ ∃ rest, key = Text.trim name ++ "_" ++ rest

/-- What is left of a key behind a name is not the key. -/
theorem ne_of_eq_append (h : broadKey = name ++ "_" ++ rest) : rest ≠ broadKey := by
  rintro rfl
  have hlength := congrArg String.length h
  simp only [String.length_append] at hlength
  have hunderscore : ("_" : String).length = 1 := rfl
  omega

/-- **A scope that owns the key of the broad-search parameter takes it for a key of its
own**, also where the parameter is to be ignored. -/
theorem apply_single_of_owns (hname : Text.trim name ≠ "")
    (hkey : broadKey = Text.trim name ++ "_" ++ rest) (hblank : v.isBlank = false) :
    Scope.apply ⟨[], name, ignoreBroad, broadKey⟩ (Bag.single broadKey v) =
      if rest = "" then Bag.empty else Bag.single rest v := by
  have hkept : keyWithin? (Text.trim name) ignoreBroad broadKey broadKey =
      if rest = "" then none else some rest := by
    have hother : (rest == broadKey) = false := beq_eq_false_iff_ne.mpr (ne_of_eq_append hkey)
    rw [keyWithin?_named hname, stripped?_eq_some_iff.mpr hkey]
    simp only [hother, Bool.and_false, Bool.false_or, String.isEmpty_iff]
  rw [apply, kept_single List.not_mem_nil hblank, if_neg (by simp [hname])]
  simp only [Bag.entries_single, List.foldl_cons, List.foldl_nil, hkept]
  by_cases hrest : rest = ""
  · simp only [if_pos hrest]
  · simp only [if_neg hrest]
    rfl

/-- A scope that does not own the key of the broad-search parameter drops the parameter
where it is to be ignored. -/
theorem apply_single_ignoring {excluded : List String} (h : ¬Owns name broadKey) :
    Scope.apply ⟨excluded, name, true, broadKey⟩ (Bag.single broadKey v) = Bag.empty := by
  refine Bag.ext (List.eq_nil_iff_forall_not_mem.mpr ?_)
  rintro ⟨key, value⟩ hmem
  obtain ⟨hwritten, -, -, hother, -⟩ := (mem_entries_apply rfl).mp hmem
  obtain ⟨hbroad, -⟩ := Prod.mk.inj (List.mem_singleton.mp hwritten)
  rw [written] at hbroad
  split at hbroad
  next => exact hother hbroad
  next hname => exact h ⟨by simpa using hname, key, hbroad.symm⟩

/-- **A scope passes the broad-search parameter on or drops it, as it should, exactly if
it does not own its key.** -/
theorem passes_single_iff (hblank : v.isBlank = false) :
    (Scope.apply ⟨[], name, false, broadKey⟩ (Bag.single broadKey v) = Bag.single broadKey v ∧
        Scope.apply ⟨[], name, true, broadKey⟩ (Bag.single broadKey v) = Bag.empty) ↔
      ¬Owns name broadKey := by
  constructor
  · rintro ⟨hpassed, -⟩ ⟨hname, rest, hkey⟩
    rw [apply_single_of_owns hname hkey hblank] at hpassed
    have hentries := congrArg Bag.entries hpassed
    split at hentries
    · cases hentries
    · exact ne_of_eq_append hkey (congrArg Prod.fst (List.singleton_inj.mp hentries))
  · intro h
    refine ⟨apply_single rfl List.not_mem_nil hblank ?_, apply_single_ignoring h⟩
    exact fun hname key hkey => h ⟨hname, key, hkey⟩

end Scope

/-! ### Walks -/

namespace SearchContext

variable {c : SearchContext} {e : Entity} {v : Value} {name : String} {ignoreBroad : Bool}

/-- A relation that does not own the key of the broad-search parameter is reached by it
unchanged or not at all. -/
theorem reaching_broadBag_of_not_owns (h : ¬Scope.Owns (scopeKey name) c.broadKey)
    (hblank : v.isBlank = false) :
    c.reaching e (c.broadBag v) ignoreBroad name =
      if c.carriesBroad e ignoreBroad name then c.broadBag v else Bag.empty := by
  obtain ⟨hpassed, hdropped⟩ := (Scope.passes_single_iff hblank).mpr h
  rw [reaching, relationParameters]
  cases c.carriesBroad e ignoreBroad name with
  | true => exact hpassed
  | false => exact hdropped

/-- **Whether a comparison is one of a broad search** for a value in an entity. -/
def ComparesBroadly (c : SearchContext) (v : Value) (e : Entity) (condition : Condition) : Prop :=
  ∃ table, c.table e = .ok table ∧
    ([], condition) ∈ (buildPredicate table
      (Catalog.searchable table e.spec.excludedKeys c.columnAlias) e.spec.likeKeys (c.broadBag v)
      ⟨true, c.forceOr, c.forceLike, c.broadKey⟩).located

/-- What an entity compares its own columns with is the value of the broad-search
parameter. If the value switches nothing on, the parameter would have to be one of a
column. -/
theorem comparesBroadly_of_own {own : Group} {l : List Relation × Condition}
    (hown : c.ownPredicate e (c.broadBag v) false = .ok own) (hblank : v.isBlank = false)
    (halias : c.columnAlias = c.broadKey ∨ v.isFilled = true) (hl : l ∈ own.located) :
    c.ComparesBroadly v e l.2 := by
  obtain ⟨table, htable, rfl⟩ := exists_of_map_ok hown
  by_cases hexcluded : c.broadKey ∈ e.spec.excludedKeys
  · -- The entity has the parameter excluded, so nothing is compared.
    have hnone : c.ownParameters e (c.broadBag v) false = Bag.empty := by
      refine Bag.ext (List.eq_nil_iff_forall_not_mem.mpr ?_)
      rintro ⟨key, value⟩ hmem
      obtain ⟨hkey, hout, -⟩ := Scope.mem_entries_kept.mp hmem
      cases List.mem_singleton.mp hkey
      exact hout hexcluded
    rw [hnone] at hl
    exact absurd hl List.not_mem_nil
  · have hdata : c.ownParameters e (c.broadBag v) false = c.broadBag v :=
      Scope.apply_single rfl hexcluded hblank fun hname => absurd rfl hname
    have hfilled : (c.broadBag v).filled c.broadKey = v.isFilled := by
      rw [Bag.filled, broadBag, Bag.get?_of_mem (List.mem_singleton.mpr rfl)]
    rw [hdata, hfilled, Bool.not_false, Bool.true_and] at hl
    cases hv : v.isFilled with
    | true =>
      rw [hv] at hl
      refine ⟨table, htable, ?_⟩
      rwa [← (of_mem_located_buildPredicate hl).1]
    | false =>
      rw [hv] at hl halias
      obtain ⟨column, value, hmem, hcolumn, -⟩ := (mem_located_buildPredicate rfl).mp hl
      obtain ⟨rfl, rfl⟩ := Prod.mk.inj (List.mem_singleton.mp hmem)
      rw [Catalog.searchable, List.mem_filter] at hcolumn
      simp [halias.resolve_right Bool.false_ne_true] at hcolumn

/-- No relation that is allowed anywhere owns the key of the broad-search parameter. -/
def SparesBroadKey (c : SearchContext) : Prop :=
  ∀ e ∈ c.registry.entities, ∀ name ∈ e.spec.allowedRelations,
    ¬Scope.Owns (scopeKey name) c.broadKey

/-- **A walk with nothing but the broad-search parameter makes comparisons of broad
searches only.** -/
theorem comparesAs_walk_broadBag (hspares : c.SparesBroadKey) (hblank : v.isBlank = false)
    (halias : c.columnAlias = c.broadKey ∨ v.isFilled = true) (left : Nat)
    (he : c.registry.Registered e) (visited : List String) :
    Ends (fun w => c.registry.ComparesAs (c.ComparesBroadly v) e w.predicate) (fun _ => True)
      (c.walk left e (c.broadBag v) false visited).value := by
  induction left generalizing e visited with
  | zero => exact .failure trivial
  | succ left ih =>
    refine ends_walk (fun _ w => c.registry.ComparesAs (c.ComparesBroadly v) e w.predicate)
      (fun _ _ => trivial) (fun own hown => ?_) fun done name found hname hfound => ?_
    · have hbroadly := fun l hl => comparesBroadly_of_own (l := l) hown hblank halias hl
      obtain ⟨table, -, rfl⟩ := exists_of_map_ok hown
      exact Registry.ComparesAs.own hbroadly
    · refine ends_hop (fun _ _ => trivial) (fun _ _ _ _ _ => trivial) (fun _ _ _ _ => hfound)
        fun relation target hrelation henter => ?_
      have hreaching : c.reaching e (c.broadBag v) false name =
          if c.carriesBroad e false name then c.broadBag v else Bag.empty :=
        reaching_broadBag_of_not_owns (hspares e he.mem name hname) hblank
      -- Only a relation that the parameter goes into is entered.
      cases hcarries : c.carriesBroad e false name with
      | false =>
        rw [hcarries, if_neg Bool.false_ne_true] at hreaching
        rw [hreaching] at henter
        cases (of_entersRelation henter).1
      | true =>
        rw [hcarries, if_pos rfl] at hreaching
        rw [hreaching]
        refine (ih (Registry.registered_of_relation hrelation) found.visited).mono
          (fun below hbelow => ?_) fun _ h => h
        exact Registry.ComparesAs.joined (Registry.of_relation hrelation).2.2 hfound hbelow

/-- **A walk that ignores the only parameter there is finds nothing** and goes nowhere. -/
theorem walk_broadBag_ignoring (hspares : c.SparesBroadKey) (hblank : v.isBlank = false)
    (left : Nat) (he : c.registry.Registered e) (visited : List String) :
    Ends (fun w => w = ⟨Group.empty, noteVisit visited e.name⟩) (fun _ => True)
      (c.walk left e (c.broadBag v) true visited).value := by
  cases left with
  | zero => exact .failure trivial
  | succ left =>
    refine ends_walk (fun _ w => w = ⟨Group.empty, noteVisit visited e.name⟩)
      (fun _ _ => trivial) (fun own hown => ?_) fun done name found hname hfound => ?_
    · obtain ⟨table, -, rfl⟩ := exists_of_map_ok hown
      have hdata : c.ownParameters e (c.broadBag v) true = Bag.empty :=
        Scope.apply_single_ignoring fun howns => howns.1 rfl
      rw [hdata]
      rfl
    · refine ends_hop (fun _ _ => trivial) (fun _ _ _ _ _ => trivial) (fun _ _ _ _ => hfound)
        fun relation target hrelation henter => ?_
      rw [reaching_broadBag_of_not_owns (hspares e he.mem name hname) hblank, carriesBroad_ignoring,
        if_neg Bool.false_ne_true] at henter
      cases (of_entersRelation henter).1

end SearchContext

/-! ### Searches -/

namespace Compiler

variable {v : Value}

/-- **A search for nothing but the broad parameter.** A scope passes the parameter on, or
drops it, exactly if it does not own its key; a scope that does takes it for a parameter
of its own. If no relation does, a search that ignores the parameter has no predicate and
visits nothing but its own entity, and in any other one every comparison is that of a
broad search of the entity that it is about. -/
theorem compile_broad_alone (c : Compiler) (catalog : Catalog) (hblank : v.isBlank = false) :
    (∀ name,
      (Scope.apply ⟨[], name, false, c.settings.broadKey⟩ (Bag.single c.settings.broadKey v) =
            Bag.single c.settings.broadKey v ∧
          Scope.apply ⟨[], name, true, c.settings.broadKey⟩ (Bag.single c.settings.broadKey v) =
            Bag.empty) ↔
        ¬Scope.Owns name c.settings.broadKey) ∧
    (∀ name rest ignoreBroad, Text.trim name ≠ "" →
      c.settings.broadKey = Text.trim name ++ "_" ++ rest →
        Scope.apply ⟨[], name, ignoreBroad, c.settings.broadKey⟩
            (Bag.single c.settings.broadKey v) =
          if rest = "" then Bag.empty else Bag.single rest v) ∧
    ((∀ e ∈ c.registry.entities, ∀ name ∈ e.spec.allowedRelations,
        ¬Scope.Owns (scopeKey name) c.settings.broadKey) →
      ∀ entity source options clock result,
        source.searchInput c.settings.broadKey = .ok (Bag.single c.settings.broadKey v) →
        c.compile catalog entity source options clock = .ok result →
        ∃ root, c.registry.find? result.entity = some root ∧
          (options.ignoreBroad = true →
            result.predicate = Group.empty ∧ result.visited = [root.name]) ∧
          (options.ignoreBroad = false →
            c.columnAlias = c.settings.broadKey ∨ v.isFilled = true →
            ∀ l ∈ result.predicate.located, ∃ e, c.registry.filtered? root l.1 = some e ∧
              (c.context options [] catalog).ComparesBroadly v e l.2)) := by
  refine ⟨fun name => Scope.passes_single_iff hblank,
    fun name rest ignoreBroad hname hkey => Scope.apply_single_of_owns hname hkey hblank,
    fun hspares entity source options clock result hbag h => ?_⟩
  obtain ⟨request, walked, table, range, hrequest, hwalked, -, -, rfl⟩ := parts_of_compile h
  obtain ⟨htarget, hrequested, -⟩ := parts_of_prepare hrequest
  have hroot := Registry.registered_of_get htarget
  rw [requestWalk, Except.ok.inj (hrequested.symm.trans hbag)] at hwalked
  refine ⟨request.target, hroot, fun hignore => ?_, fun hcarry halias => ?_⟩
  · rw [hignore] at hwalked
    have hnothing := (SearchContext.walk_broadBag_ignoring
      (c := c.context options request.requested catalog) hspares hblank _ hroot []).of_ok hwalked
    rw [hnothing]
    exact ⟨rfl, List.mergeSort_singleton _⟩
  · rw [hcarry] at hwalked
    exact (SearchContext.comparesAs_walk_broadBag
      (c := c.context options request.requested catalog) hspares hblank halias _ hroot []).of_ok
        hwalked

end Compiler

/-- The compiler of a pond in which the key of the broad-search parameter is that of the
name of a fish. -/
def Pond.overlapping : Compiler :=
  ⟨registry, "main",
    { Settings.usual with broadKey := "fish_name", broadKey_nonblank := by decide }, "fish_name"⟩

namespace Compiler

/-- Under the usual key the broad search of a pond is one of each entity, and ignored it is
none; under the key of a fish's name the scope of fish takes the parameter for a name. -/
theorem compile_broad_alone_pond :
    (Value.str "koi").isBlank = false ∧
      (∀ e ∈ Pond.registry.entities, ∀ name ∈ e.spec.allowedRelations,
        ¬Scope.Owns (scopeKey name) "q") ∧
      (∃ result, Pond.compiler.compile Pond.catalog "Pond" (.value (.str "koi")) Pond.ignoring
          Pond.clock = .ok result ∧
        ∃ root, Pond.registry.find? result.entity = some root ∧
          result.predicate = Group.empty ∧ result.visited = [root.name]) ∧
      (∃ result, Pond.compiler.compile Pond.catalog "Pond" (.value (.str "koi")) Pond.following
          Pond.clock = .ok result ∧
        ∃ root, Pond.registry.find? result.entity = some root ∧
          ∀ l ∈ result.predicate.located, ∃ e, Pond.registry.filtered? root l.1 = some e ∧
            (Pond.compiler.context Pond.following [] Pond.catalog).ComparesBroadly (.str "koi") e
              l.2) ∧
      Text.trim "fish" ≠ "" ∧ "fish_name" = Text.trim "fish" ++ "_" ++ "name" ∧
      Scope.apply ⟨[], "fish", true, "fish_name"⟩ (Bag.single "fish_name" (.str "koi")) =
        Bag.single "name" (.str "koi") := by
  have hblank : (Value.str "koi").isBlank = false := by decide
  have hspares : ∀ e ∈ Pond.registry.entities, ∀ name ∈ e.spec.allowedRelations,
      ¬Scope.Owns (scopeKey name) "q" := by
    rintro e - name - ⟨-, rest, hkey⟩
    have hunderscore := Scope.underscore_mem (Text.trim (scopeKey name)) rest
    rw [← hkey] at hunderscore
    exact absurd hunderscore (by decide)
  obtain ⟨ignored, hignored⟩ := exists_of_toBool (x := Pond.compiler.compile Pond.catalog "Pond"
    (.value (.str "koi")) Pond.ignoring Pond.clock) (by decide +kernel)
  obtain ⟨found, hfound⟩ := exists_of_toBool (x := Pond.compiler.compile Pond.catalog "Pond"
    (.value (.str "koi")) Pond.following Pond.clock) (by decide +kernel)
  obtain ⟨-, -, hsearch⟩ := compile_broad_alone Pond.compiler Pond.catalog hblank
  obtain ⟨root, hroot, hnothing, -⟩ := hsearch hspares _ _ _ _ _ rfl hignored
  obtain ⟨root', hroot', -, hbroadly⟩ := hsearch hspares _ _ _ _ _ rfl hfound
  have hfish : Text.trim "fish" ≠ "" := by decide
  have hkey : "fish_name" = Text.trim "fish" ++ "_" ++ "name" := by decide +kernel
  refine ⟨hblank, hspares, ⟨ignored, hignored, root, hroot, hnothing rfl⟩,
    ⟨found, hfound, root', hroot', hbroadly rfl (Or.inl rfl)⟩, hfish, hkey, ?_⟩
  exact (compile_broad_alone Pond.overlapping Pond.catalog hblank).2.1 "fish" "name" true hfish hkey

/-- Under the key of a fish's name the broad-search parameter is compared with the name of
a fish, though it is to be ignored. -/
theorem not_compile_broad_alone :
    Scope.apply ⟨[], "fish", true, "fish_name"⟩ (Bag.single "fish_name" (.str "koi")) ≠ Bag.empty ∧
      ∃ result, Pond.overlapping.compile Pond.catalog "Pond" (.value (.str "koi")) Pond.ignoring
          Pond.clock = .ok result ∧
        ∃ l ∈ result.predicate.located, l.1.map Relation.name = ["fish"] ∧ l.2.column = "name" := by
  refine ⟨fun h => absurd (congrArg Bag.isEmpty h) (by decide), ?_⟩
  obtain ⟨result, h, hany⟩ := exists_of_map_ok
    (x := Pond.overlapping.compile Pond.catalog "Pond" (.value (.str "koi")) Pond.ignoring
      Pond.clock)
    (f := fun s => s.predicate.located.any fun l =>
      l.1.map Relation.name == ["fish"] && l.2.column == "name") (b := true)
    (by decide +kernel)
  obtain ⟨l, hl, hboth⟩ := List.any_eq_true.mp hany
  obtain ⟨hpath, hcolumn⟩ := Bool.and_eq_true_iff.mp hboth
  exact ⟨result, h, l, hl, eq_of_beq hpath, eq_of_beq hcolumn⟩

end Compiler

end RelationalSearch
