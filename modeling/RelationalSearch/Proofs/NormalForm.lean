import RelationalSearch.Proofs.Leaves
import RelationalSearch.Proofs.Searches
import RelationalSearch.Proofs.Translation

/-!
# Normal form

An empty group can be read in two ways. Read plainly it holds of every row, and as
an alternative of a group it takes all others over; when a statement is made of a
predicate it contributes nothing, so that the other alternatives are what is asked
for. The two readings differ on predicates that are put together by hand.

They do not differ on predicates in **normal form**
(`RelationalSearch.Predicate.IsNormal`), in which every group inside a group has
several members and the other connective: in them no member asks for nothing
(`RelationalSearch.Predicate.asksNothing_of_isNormal`). Composition looks one level
down, and it makes a predicate in normal form out of predicates in normal form
(`RelationalSearch.Group.isNormal_of`). The comparisons of one table are composed,
and so is all that is joined to them, which is why every search has a predicate in
normal form.
-/

namespace RelationalSearch

namespace Predicate

/-! ### Predicates in normal form -/

/-- Whether a predicate may stand in a group: if it is a group, it has several
members, and they are joined otherwise. -/
def StandsIn (connective : Connective) : Predicate → Prop
  | group c members => 2 ≤ members.length ∧ c ≠ connective
  | _ => True

mutual

/-- **Normal form**: in all groups, those of semi-joins included, the members may
stand where they do. -/
def IsNormal : Predicate → Prop
  | condition _ => True
  | group connective members => AreNormal connective members
  | related _ _ connective members => AreNormal connective members

/-- Whether the members of a group may stand in it and are themselves in normal
form. -/
def AreNormal (connective : Connective) : List Predicate → Prop
  | [] => True
  | p :: rest => StandsIn connective p ∧ IsNormal p ∧ AreNormal connective rest

end

variable {connective : Connective}

theorem areNormal_iff {ps : List Predicate} :
    AreNormal connective ps ↔ ∀ p ∈ ps, p.StandsIn connective ∧ p.IsNormal := by
  induction ps with
  | nil => exact iff_of_true trivial fun p hp => absurd hp List.not_mem_nil
  | cons p ps ih => rw [AreNormal, ih, List.forall_mem_cons, and_assoc]

/-! ### Composition -/

theorem isNormal_unwrapped {p : Predicate} (h : p.IsNormal) : p.unwrapped.IsNormal := by
  fun_induction unwrapped p with
  | case1 c p ih => exact ih h.2.1
  | case2 => exact h

/-- Unwrapping leaves no group of one member. -/
theorem length_ne_one_of_unwrapped {p : Predicate} {c : Connective} {members : List Predicate}
    (h : p.unwrapped = group c members) : members.length ≠ 1 := by
  fun_induction unwrapped p with
  | case1 c p ih => exact ih h
  | case2 p hp =>
    intro hlength
    obtain ⟨q, rfl⟩ := List.length_eq_one_iff.mp hlength
    exact hp c q h

/-- What a predicate in normal form contributes to a group may stand in it. -/
theorem areNormal_contribution {p : Predicate} (h : p.IsNormal) :
    AreNormal connective (p.contribution connective) := by
  have hunwrapped := isNormal_unwrapped h
  rw [contribution]
  split
  next c members heq =>
    rw [heq] at hunwrapped
    split
    next => trivial
    next hempty =>
      split
      next hc => exact hc ▸ hunwrapped
      next hc =>
        have hone := length_ne_one_of_unwrapped heq
        have hnone : members.length ≠ 0 := by simpa using hempty
        exact ⟨⟨by omega, hc⟩, hunwrapped, trivial⟩
  next hp =>
    refine ⟨?_, hunwrapped, trivial⟩
    cases hu : p.unwrapped with
    | group c members => exact (hp c members hu).elim
    | condition => trivial
    | related => trivial

end Predicate

namespace Group

/-- Whether a group is in normal form. -/
def IsNormal (g : Group) : Prop := g.toPredicate.IsNormal

/-- **Composition keeps the normal form.** -/
theorem isNormal_of {connective : Connective} {parts : List Predicate}
    (h : ∀ p ∈ parts, p.IsNormal) : (Group.of connective parts).IsNormal := by
  refine Predicate.areNormal_iff.mpr fun q hq => ?_
  obtain ⟨p, hp, hq⟩ := List.mem_flatMap.mp hq
  exact Predicate.areNormal_iff.mp (Predicate.areNormal_contribution (h p hp)) q hq

end Group

/-! ### The comparisons of an entity's own columns -/

theorem Predicate.IsLeaf.isNormal {column : String} {p : Predicate} (h : p.IsLeaf column) :
    p.IsNormal := by
  cases h with
  | comparison => trivial
  | alternatives hparts =>
    refine Group.isNormal_of fun q hq => ?_
    obtain ⟨c, -, rfl⟩ := hparts q hq
    trivial

/-- **The predicate of an entity's own columns is in normal form.** -/
theorem isNormal_buildPredicate {table : Table} {columns likeKeys : List String} {params : Bag}
    {mode : BuildMode} : (buildPredicate table columns likeKeys params mode).IsNormal := by
  cases hempty : params.isEmpty with
  | true =>
    rw [buildPredicate, if_pos hempty]
    trivial
  | false =>
    have hleaf : ∀ p, (p ∈ (requestedLeaves table columns likeKeys params mode).1 ∨
        p ∈ (requestedLeaves table columns likeKeys params mode).2) → p.IsNormal := by
      intro p hp
      obtain ⟨column, -, hleaf⟩ := isLeaf_of_mem_requestedLeaves hp
      exact hleaf.isNormal
    rw [buildPredicate_eq hempty]
    refine Group.isNormal_of fun p hp => ?_
    rcases List.mem_cons.mp hp with rfl | hp
    · exact Group.isNormal_of fun p hp => hleaf p (Or.inl hp)
    · rw [List.mem_singleton.mp hp]
      exact Group.isNormal_of fun p hp => hleaf p (Or.inr hp)

/-! ### The plain reading -/

namespace Contents

variable (db : Contents) (test : Condition → db.Row → Prop)

mutual

/-- **The plain reading of a predicate**: a group without members holds of every
row, wherever it stands. -/
def Matches : Predicate → db.Row → Prop
  | .condition c, row => test c row
  | .group .and members, row => MatchesAll members row
  | .group .or members, row => members = [] ∨ MatchesSome members row
  | .related relation table .and members, row =>
    ∃ other, db.related relation table row other ∧ MatchesAll members other
  | .related relation table .or members, row =>
    ∃ other, db.related relation table row other ∧ (members = [] ∨ MatchesSome members other)

/-- All members hold of a row. -/
def MatchesAll : List Predicate → db.Row → Prop
  | [], _ => True
  | p :: rest, row => Matches p row ∧ MatchesAll rest row

/-- Some member holds of a row. -/
def MatchesSome : List Predicate → db.Row → Prop
  | [], _ => False
  | p :: rest, row => Matches p row ∨ MatchesSome rest row

end

end Contents

namespace Predicate

mutual

/-- **In normal form no member of a group asks for nothing.** -/
theorem asksNothing_of_isNormal {connective : Connective} :
    ∀ p : Predicate, p.StandsIn connective → p.IsNormal → p.asksNothing = false
  | condition _, _, _ => by rw [asksNothing]
  | related .., _, _ => by rw [asksNothing]
  | group c members, hstands, hnormal => by
    rw [asksNothing, ← Bool.not_eq_true, allAskNothing_of_areNormal members hnormal]
    rintro rfl
    exact absurd hstands.1 (by decide)

/-- A group in normal form asks for nothing only when it is empty. -/
theorem allAskNothing_of_areNormal {connective : Connective} :
    ∀ ps : List Predicate, AreNormal connective ps → (allAskNothing ps = true ↔ ps = [])
  | [], _ => iff_of_true rfl rfl
  | p :: rest, hnormal => by
    rw [allAskNothing, asksNothing_of_isNormal p hnormal.1 hnormal.2.1]
    exact iff_of_false (by simp) (List.cons_ne_nil p rest)

end

end Predicate

namespace Contents

variable {db : Contents} {test : Condition → db.Row → Prop}

mutual

/-- **On predicates in normal form the two readings agree.** -/
theorem satisfies_iff_matches :
    ∀ (p : Predicate) {row : db.Row}, p.IsNormal →
      (db.Satisfies test p row ↔ db.Matches test p row)
  | .condition c, row, _ => by rw [Satisfies, Matches]
  | .group .and members, row, h => by rw [Satisfies, Matches, satisfiesAll_iff_matchesAll members h]
  | .group .or members, row, h => by
    rw [Satisfies, Matches, satisfiesSome_iff_matchesSome members h,
      Predicate.allAskNothing_of_areNormal members h]
  | .related relation table .and members, row, h => by
    simp only [Satisfies, Matches, satisfiesAll_iff_matchesAll members h]
  | .related relation table .or members, row, h => by
    simp only [Satisfies, Matches, satisfiesSome_iff_matchesSome members h,
      Predicate.allAskNothing_of_areNormal members h]

theorem satisfiesAll_iff_matchesAll {connective : Connective} :
    ∀ (ps : List Predicate) {row : db.Row}, Predicate.AreNormal connective ps →
      (db.SatisfiesAll test ps row ↔ db.MatchesAll test ps row)
  | [], row, _ => by rw [SatisfiesAll, MatchesAll]
  | p :: rest, row, h => by
    rw [SatisfiesAll, MatchesAll, satisfies_iff_matches p h.2.1,
      satisfiesAll_iff_matchesAll rest h.2.2, Predicate.asksNothing_of_isNormal p h.1 h.2.1]
    simp

theorem satisfiesSome_iff_matchesSome {connective : Connective} :
    ∀ (ps : List Predicate) {row : db.Row}, Predicate.AreNormal connective ps →
      (db.SatisfiesSome test ps row ↔ db.MatchesSome test ps row)
  | [], row, _ => by rw [SatisfiesSome, MatchesSome]
  | p :: rest, row, h => by
    rw [SatisfiesSome, MatchesSome, satisfies_iff_matches p h.2.1,
      satisfiesSome_iff_matchesSome rest h.2.2, Predicate.asksNothing_of_isNormal p h.1 h.2.1]
    simp

end

end Contents

/-! ### One meaning -/

namespace Predicate

/-- **Whether all readings of a predicate are one**: the plain one, the one that
drops what asks for nothing, and the truth of its clause, on whatever occurrence. -/
def Unambiguous (p : Predicate) : Prop :=
  (∀ (db : Contents) (test : Condition → db.Row → Prop) (row : db.Row),
    db.Satisfies test p row ↔ db.Matches test p row) ∧
  ∀ (metadata : Sql.Metadata) (source : Sql.Source) (depth : Nat) (o : Option Sql.Clause),
    source.occurrence.Before depth → Sql.clause? metadata source depth p = .ok o →
    ∀ (db : Sql.DatabaseState) (frame : db.Frame), (∀ c ∈ o, db.truth c frame = .yes) ↔
      (db.contents metadata).Matches db.test p (frame source.occurrence)

theorem IsNormal.unambiguous {p : Predicate} (h : p.IsNormal) : p.Unambiguous := by
  refine ⟨fun db test row => Contents.satisfies_iff_matches p h, ?_⟩
  intro metadata source depth o hsource ho db frame
  exact (Sql.DatabaseState.truth_of_clause? p frame hsource ho).trans
    (Contents.satisfies_iff_matches p h)

/-- An empty group beside a comparison: as an alternative it takes over, or it is none. -/
theorem not_unambiguous_of_emptyAlternative (c : Condition) :
    ¬(group .or [group .and [], condition c]).Unambiguous := by
  rintro ⟨hreadings, -⟩
  -- In a database where no comparison holds only the plain reading finds the row.
  have hsome := (hreadings ⟨Unit, fun _ _ => False, fun _ _ _ _ => False⟩ (fun _ _ => False) ()).mpr
    (Or.inr (Or.inl trivial))
  simp [Contents.Satisfies, Contents.SatisfiesSome, asksNothing, allAskNothing] at hsome

end Predicate

/-! ### Searches -/

namespace Compiler

variable {c : Compiler} {catalog : Catalog}

/-- **The normal form is carried through a search.** -/
theorem carried_isNormal : c.Carried catalog fun _ g => g.IsNormal where
  empty _ := trivial
  own _ _ _ _ _ := isNormal_buildPredicate
  joined _ _ hfound hbelow := by
    refine Group.isNormal_of fun p hp => ?_
    rcases List.mem_cons.mp hp with rfl | hp
    · exact hfound
    · rw [List.mem_singleton.mp hp]
      exact hbelow

/-- **Every search has a predicate in normal form**, and so there is one way to read
it. -/
theorem Makes.normal {result : CompiledSearch} (h : c.Makes catalog result) :
    result.predicate.IsNormal ∧ result.predicate.toPredicate.Unambiguous := by
  obtain ⟨e, -, -, hnormal⟩ := h.of_carried carried_isNormal
  exact ⟨hnormal, hnormal.unambiguous⟩

/-- A broad search that goes round the circle of a pond. -/
theorem Makes.normal_pond :
    ∃ result, Pond.compiler.Makes Pond.catalog result ∧ result.predicate.IsNormal ∧
      result.predicate.toPredicate.Unambiguous := by
  obtain ⟨result, h⟩ := exists_of_toBool (x := Pond.compiler.compile Pond.catalog "Pond"
    (.value (.map [(.str "q", .str "koi")])) Pond.following Pond.clock) (by decide +kernel)
  exact ⟨result, .compiled h, Makes.normal (.compiled h)⟩

end Compiler

end RelationalSearch
