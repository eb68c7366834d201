import RelationalSearch.Proofs.Compilation
import RelationalSearch.Proofs.Leaves

/-!
# More parameters, fewer rows

A search that overlooks the broad parameter asks for all that its parameters say,
so that further parameters can only exclude rows. This is proved of two walks side
by side, one with fewer and one with more parameters: their predicates need not
have the same form, because a relation can be left out by the one and searched by
the other. What holds at every moment is that the rows that satisfy what the one
with more parameters has found also satisfy what the other one has found
(`RelationalSearch.SearchContext.satisfies_walk`).

It is essential that the search with more parameters enters every relation that
the other one enters (`RelationalSearch.SearchContext.entersRelation_of_subset`).
-/

namespace RelationalSearch

/-- **Whether a bag has the keys of another one**, blank only where they are blank there. -/
def Bag.KeyedIn (bag bag' : Bag) : Prop :=
  ∀ key value, (key, value) ∈ bag.entries →
    ∃ value', (key, value') ∈ bag'.entries ∧ (value.isBlank = false → value'.isBlank = false)

namespace SearchContext

variable {c : SearchContext} {e target : Entity} {bag bag' : Bag} {name : String} {left : Nat}
  {visited visited' path path' : List String} {follow : Bool} {requested : List String}

/-- The same surroundings, with another choice of relations for a broad search. -/
def spreading (c : SearchContext) (follow : Bool) (requested : List String) : SearchContext :=
  { c with followRelations := follow, requested := requested }

@[simp] theorem relationParameters_spreading {ignoreBroad : Bool} :
    (c.spreading follow requested).relationParameters bag name ignoreBroad =
      c.relationParameters bag name ignoreBroad := rfl

/-! ### More parameters -/

theorem entries_relationParameters (h : bag.entries ⊆ bag'.entries) :
    (c.relationParameters bag name true).entries ⊆
      (c.relationParameters bag' name true).entries := by
  rintro ⟨key, value⟩ hm
  obtain ⟨hwritten, hkept⟩ := mem_relationParameters.mp hm
  exact mem_relationParameters.mpr ⟨h hwritten, hkept⟩

theorem entries_ownParameters (h : bag.entries ⊆ bag'.entries) :
    (c.ownParameters e bag true).entries ⊆ (c.ownParameters e bag' true).entries := by
  rintro ⟨key, value⟩ hm
  obtain ⟨hbag, hkept⟩ := mem_ownParameters.mp hm
  exact mem_ownParameters.mpr ⟨h hbag, hkept⟩

theorem isEmpty_of_subset (h : bag.entries ⊆ bag'.entries) (hbag : bag.isEmpty = false) :
    bag'.isEmpty = false := by
  obtain ⟨key, hkey⟩ := Bag.exists_mem_keys hbag
  obtain ⟨value, hm⟩ := Bag.mem_keys.mp hkey
  exact Bag.isEmpty_eq_false (Bag.mem_keys_of_mem (h hm))

/-- What has the keys of a bag without the broad-search parameter passes on to a relation
what has the keys that the bag passes on. -/
theorem keyedIn_reaching (h : bag.KeyedIn bag') (e : Entity) (name : String)
    (ignoreBroad : Bool) :
    (c.relationParameters bag name true).KeyedIn (c.reaching e bag' ignoreBroad name) := by
  intro key value hm
  obtain ⟨hwritten, hblank, hbroad, hempty⟩ := mem_relationParameters.mp hm
  obtain ⟨value', hwritten', hblank'⟩ := h _ value hwritten
  rw [reaching_eq_apply]
  have hkey : key ∈ ((c.relationScope e ignoreBroad name).apply bag').keys :=
    Scope.mem_keys_apply_of_written hwritten' List.not_mem_nil (hblank' hblank) hbroad hempty
  obtain ⟨kept, hkept⟩ := Bag.mem_keys.mp hkey
  exact ⟨kept, hkept, fun _ => Scope.isBlank_of_mem_apply hkept⟩

/-- **What a look-ahead finds without the broad-search parameter it also finds with more
parameters**, whether that parameter is among them or not. -/
theorem findsAny_of_keyedIn {ignoreBroad : Bool} (h : bag.KeyedIn bag')
    (honly : c.onlyBroad bag' = false)
    (hfound : c.findsAny visited left e bag true path = .ok true)
    (hmore : (c.spreading follow requested).findsAny visited' left e bag' ignoreBroad path' =
      .ok false) : False := by
  induction left generalizing e bag bag' ignoreBroad path path' with
  | zero => cases hfound
  | succ left ih =>
    rcases of_findsAny_false hmore with ⟨-, hback⟩ | ⟨columns', hcolumns', hkeys', -, hbelow'⟩
    · exact absurd (honly.symm.trans hback) (by decide)
    · -- What answered the look-ahead, a column or a relation, is there for the other one too.
      obtain ⟨-, columns, hcolumns, hkeys | hbroad | ⟨name, hname, hbelow⟩⟩ :=
        of_findsAny_true hfound
      · obtain ⟨key, hkey, hcolumn⟩ := hkeys
        obtain ⟨value, hm⟩ := Bag.mem_keys.mp hkey
        obtain ⟨value', hm', -⟩ := h key value hm
        obtain rfl : columns = columns' := Except.ok.inj (hcolumns.symm.trans hcolumns')
        exact hkeys' key (Bag.mem_keys_of_mem hm') hcolumn
      · exact absurd hbroad.1 (by decide)
      · obtain ⟨relation, target, hrelation, hempty, hbelow⟩ := of_findsBelow_true hbelow
        have hrelation' : (c.spreading follow requested).registry.relation e name =
            .ok (relation, target) := hrelation
        have hbelow' := hbelow' name hname
        rw [findsBelow_of_relation hrelation'] at hbelow'
        have hinner : (c.relationParameters bag name true).KeyedIn
            ((c.spreading follow requested).reaching e bag' ignoreBroad name) :=
          keyedIn_reaching (c := c.spreading follow requested) h e name ignoreBroad
        -- A key goes through that is not the one of the broad search.
        obtain ⟨key, hkey⟩ := Bag.exists_mem_keys hempty
        obtain ⟨value, hm⟩ := Bag.mem_keys.mp hkey
        obtain ⟨value', hm', -⟩ := hinner key value hm
        have hkey' := Bag.mem_keys_of_mem hm'
        rw [if_neg (by rw [Bag.isEmpty_eq_false hkey']; decide)] at hbelow'
        refine ih hinner ?_ hbelow hbelow'
        rw [Bool.eq_false_iff]
        intro hback
        have hkey : key = c.broadKey := (Bag.only_singleton.mp hback).2 key hkey'
        exact (mem_relationParameters.mp hm).2.2.1 hkey

/-- Without that parameter on either side, more parameters are those and others. -/
theorem findsAny_of_subset (h : bag.entries ⊆ bag'.entries) (honly : c.onlyBroad bag' = false)
    (hfound : c.findsAny visited left e bag true path = .ok true)
    (hmore : (c.spreading follow requested).findsAny visited' left e bag' true path' = .ok false) :
    False :=
  findsAny_of_keyedIn (fun _ value hm => ⟨value, h hm, id⟩) honly hfound hmore

/-- **A relation that is entered is also entered with more parameters.** -/
theorem entersRelation_of_subset (h : bag.entries ⊆ bag'.entries)
    (henters : c.entersRelation visited left target (c.relationParameters bag name true) false =
      .ok true)
    (hmore : (c.spreading follow requested).entersRelation visited' left target
      (c.relationParameters bag' name true) false = .ok false) : False := by
  have hinner : (c.relationParameters bag name true).entries ⊆
      (c.relationParameters bag' name true).entries := entries_relationParameters h
  obtain ⟨hempty, -, hfound⟩ := of_entersRelation henters
  have honly : (c.spreading follow requested).onlyBroad (c.relationParameters bag' name true) =
      false := onlyBroad_relationParameters
  rw [entersRelation, if_neg (by rw [isEmpty_of_subset hinner hempty]; decide), honly] at hmore
  exact findsAny_of_subset hinner onlyBroad_relationParameters hfound hmore

/-! ### Fewer rows -/

section Rows

variable {db : Contents} {test : Condition → db.Row → Prop} {row : db.Row}

/-- The columns of an entity ask for more with more parameters. -/
theorem satisfies_ownPredicate (hor : c.forceOr = false) (h : bag.entries ⊆ bag'.entries)
    {own own' : Group} (hown : c.ownPredicate e bag true = .ok own)
    (hown' : (c.spreading follow requested).ownPredicate e bag' true = .ok own')
    (hrow : db.Satisfies test own'.toPredicate row) : db.Satisfies test own.toPredicate row := by
  rw [ownPredicate] at hown hown'
  cases htable : c.table e with
  | error err => rw [htable] at hown; cases hown
  | ok table =>
    have htable' : (c.spreading follow requested).table e = .ok table := htable
    rw [htable] at hown
    rw [htable'] at hown'
    cases hown
    cases hown'
    rw [Contents.satisfies_buildPredicate rfl hor] at hrow ⊢
    exact fun column value hm hcolumn => hrow column value (entries_ownParameters h hm) hcolumn

/-- With a relation joined to it, what has been found asks in addition for a
related row. -/
theorem satisfies_joined {relation : Relation} {found below : Walked} :
    db.Satisfies test (c.joined e bag true name relation target found below).predicate.toPredicate
        row ↔
      db.Satisfies test found.predicate.toPredicate row ∧
        ∃ other, db.related relation target.table row other ∧
          db.Satisfies test below.predicate.toPredicate other := by
  have hconnective : c.relationConnective e name (c.carriesBroad e true name)
      (c.reaching e bag true name) = .and := rfl
  rw [joined, hconnective, Contents.satisfies_of, Contents.Satisfies, Contents.satisfiesAll_iff]
  simp only [List.forall_mem_cons, List.not_mem_nil, false_implies, implies_true, and_true,
    Contents.satisfies_related]

/-- **Two walks side by side**: what satisfies the predicate of the walk with more
parameters satisfies that of the other one. -/
theorem satisfies_walk (hor : c.forceOr = false) (h : bag.entries ⊆ bag'.entries)
    {walked walked' : Walked} (hwalked : (c.walk left e bag true visited).value = .ok walked)
    (hwalked' : ((c.spreading follow requested).walk left e bag' true visited').value =
      .ok walked') :
    ∀ row, db.Satisfies test walked'.predicate.toPredicate row →
      db.Satisfies test walked.predicate.toPredicate row := by
  induction left generalizing e bag bag' visited visited' walked walked' with
  | zero => cases hwalked
  | succ left ih =>
    rw [walk_succ] at hwalked hwalked'
    obtain ⟨own, hown, hloop⟩ := exists_of_bind_ok hwalked
    obtain ⟨own', hown', hloop'⟩ := exists_of_bind_ok hwalked'
    refine foldlM_pair (R := fun found found' : Walked =>
      ∀ row, db.Satisfies test found'.predicate.toPredicate row →
        db.Satisfies test found.predicate.toPredicate row) ?_ ?_ hloop hloop'
    · intro name _ found found' next next' hfound hhop hhop'
      obtain ⟨relation, target, hrelation, hnext⟩ := of_hop hhop
      obtain ⟨relation', target', hrelation', hnext'⟩ := of_hop hhop'
      cases hrelation.symm.trans hrelation'
      rw [reaching_ignoring, carriesBroad_ignoring] at hnext hnext'
      rcases hnext with ⟨-, rfl⟩ | ⟨henters, below, hbelow, rfl⟩
      · -- The walk with fewer parameters leaves the relation out.
        rcases hnext' with ⟨-, rfl⟩ | ⟨-, below', -, rfl⟩
        · exact hfound
        · exact fun row hrow => hfound row (satisfies_joined.mp hrow).1
      · -- It enters the relation, and so does the other one.
        rcases hnext' with ⟨hskip, -⟩ | ⟨-, below', hbelow', rfl⟩
        · exact (entersRelation_of_subset h henters hskip).elim
        · intro row hrow
          obtain ⟨hfound', other, hrelated, hother⟩ := satisfies_joined.mp hrow
          refine satisfies_joined.mpr ⟨hfound row hfound', other, hrelated, ?_⟩
          exact ih (entries_relationParameters h) hbelow hbelow' other hother
    · exact fun row hrow => satisfies_ownPredicate hor h hown hown' hrow

end Rows

end SearchContext

/-! ### Searches -/

/-- **The rows that a search finds** in a database: those rows of its table that
satisfy its predicate. -/
def CompiledSearch.rowsFound (s : CompiledSearch) (db : Contents)
    (test : Condition → db.Row → Prop) : Set db.Row :=
  {row | db.rows s.table row ∧ db.Satisfies test s.predicate.toPredicate row}

namespace Compiler

/-- **Further parameters only narrow a search.** When the broad parameter is
overlooked and columns are no alternatives of each other, a search whose bag holds
every parameter of another one, and perhaps more, finds only rows that the other
one finds too, in every database and for every reading of the comparisons. -/
theorem compile_narrows {c : Compiler} {catalog : Catalog} {entity : String}
    {source source' : Source} {options options' : SearchOptions} {clock clock' : Clock}
    {bag bag' : Bag} {result result' : CompiledSearch}
    (hignore : options.ignoreBroad = true) (hignore' : options'.ignoreBroad = true)
    (hor : options.forceOr = false) (hor' : options'.forceOr = false)
    (hlike : options.forceLike = options'.forceLike)
    (hbag : source.searchInput c.settings.broadKey = .ok bag)
    (hbag' : source'.searchInput c.settings.broadKey = .ok bag')
    (hmore : ∀ key value, (key, value) ∈ bag.entries → (key, value) ∈ bag'.entries)
    (h : c.compile catalog entity source options clock = .ok result)
    (h' : c.compile catalog entity source' options' clock' = .ok result') (db : Contents)
    (test : Condition → db.Row → Prop) : result'.rowsFound db test ⊆ result.rowsFound db test := by
  obtain ⟨request, walked, table, range, hrequest, hwalked, -, -, rfl⟩ := parts_of_compile h
  obtain ⟨request', walked', table', range', hrequest', hwalked', -, -, rfl⟩ := parts_of_compile h'
  obtain ⟨htarget, hread, -⟩ := parts_of_prepare hrequest
  obtain ⟨htarget', hread', -⟩ := parts_of_prepare hrequest'
  obtain rfl : request.bag = bag := Except.ok.inj (hread.symm.trans hbag)
  obtain rfl : request'.bag = bag' := Except.ok.inj (hread'.symm.trans hbag')
  have hsame : request'.target = request.target := Except.ok.inj (htarget'.symm.trans htarget)
  have hcontext : c.context options' request'.requested catalog =
      (c.context options request.requested catalog).spreading options'.followRelations
        request'.requested := by
    rw [SearchContext.spreading, context, context, hor, hor', hlike]
  rw [requestWalk, hignore] at hwalked
  rw [requestWalk, hignore', hsame, hcontext] at hwalked'
  rintro row ⟨htable, hrow⟩
  refine ⟨?_, ?_⟩
  · rw [assembled, hsame] at htable
    exact htable
  · exact SearchContext.satisfies_walk (c := c.context options request.requested catalog) hor
      (fun entry hm => hmore entry.1 entry.2 hm) hwalked hwalked' row hrow

/-- A pond of a depth with a fish, and one in which a fish also has a name. -/
theorem compile_narrows_pond :
    ∃ result result',
      Pond.compiler.compile Pond.catalog "Pond" Pond.addressed Pond.ignoring Pond.clock =
          .ok result ∧
        Pond.compiler.compile Pond.catalog "Pond" Pond.furtherAddressed Pond.ignoring Pond.clock =
          .ok result' ∧
        ∀ (db : Contents) (test : Condition → db.Row → Prop),
          result'.rowsFound db test ⊆ result.rowsFound db test := by
  obtain ⟨result, h⟩ := exists_of_toBool (x := Pond.compiler.compile Pond.catalog "Pond"
    Pond.addressed Pond.ignoring Pond.clock) (by decide +kernel)
  obtain ⟨result', h'⟩ := exists_of_toBool (x := Pond.compiler.compile Pond.catalog "Pond"
    Pond.furtherAddressed Pond.ignoring Pond.clock) (by decide +kernel)
  have hbag : Pond.addressed.searchInput "q" = .ok
      ⟨[("fish_species_fish_name", .str "koi"), ("depth", .int 3)], by decide⟩ := rfl
  have hbag' : Pond.furtherAddressed.searchInput "q" = .ok
      ⟨[("fish_name", .str "shubunkin"), ("fish_species_fish_name", .str "koi"),
        ("depth", .int 3)], by decide⟩ := rfl
  refine ⟨result, result', h, h', compile_narrows rfl rfl rfl rfl rfl hbag hbag' ?_ h h'⟩
  exact fun key value hm => List.mem_cons_of_mem _ hm

end Compiler

end RelationalSearch
