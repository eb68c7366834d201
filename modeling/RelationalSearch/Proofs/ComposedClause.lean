import RelationalSearch.Proofs.Translation

/-!
# The clause of a composed group

A group can be composed (`RelationalSearch.Group.of`) or taken as it stands, and the
two are other predicates: composition opens groups of one member, drops empty groups
and merges groups of the same connective into one. A statement does not tell them
apart. Making the clause of either fails with the same failure, or both ask for
nothing, or both clauses have the same one of the three truth values in every state of
the database and on all rows (`RelationalSearch.Sql.clause?_of`).

Opening a group of one member does not even change the clause, since one clause stands
for itself (`RelationalSearch.Sql.clause?_unwrapped`). Merging takes one step out of a
nested conjunction or disjunction, and conjunction and disjunction of three truth values
are associative. Composition looks one level down only, so what it merges can still hold
groups that ask for nothing; they have no clauses, here as there.
-/

namespace RelationalSearch

namespace Sql

/-! ### Conjunction and disjunction of truth values -/

namespace Truth

theorem and_assoc (a b c : Truth) : (a.and b).and c = a.and (b.and c) := by
  cases a <;> cases b <;> cases c <;> rfl

theorem or_assoc (a b c : Truth) : (a.or b).or c = a.or (b.or c) := by
  cases a <;> cases b <;> cases c <;> rfl

theorem and_yes (a : Truth) : a.and yes = a := by cases a <;> rfl

theorem or_no (a : Truth) : a.or no = a := by cases a <;> rfl

end Truth

/-! ### Clauses under a connective -/

namespace DatabaseState

variable {db : DatabaseState} {frame : db.Frame} {connective : Connective}

/-- The value of several clauses under a connective. -/
noncomputable def truthUnder (db : DatabaseState) (connective : Connective)
    (clauses : List Clause) (frame : db.Frame) : Truth :=
  match connective with
  | .and => truthAll clauses frame
  | .or => truthAny clauses frame

theorem truthAll_append (cs ds : List Clause) :
    truthAll (cs ++ ds) frame = (truthAll cs frame).and (truthAll ds frame) := by
  induction cs with
  | nil => rw [List.nil_append, truthAll]; rfl
  | cons c cs ih => rw [List.cons_append, truthAll, truthAll, ih, Truth.and_assoc]

theorem truthAny_append (cs ds : List Clause) :
    truthAny (cs ++ ds) frame = (truthAny cs frame).or (truthAny ds frame) := by
  induction cs with
  | nil => rw [List.nil_append, truthAny]; rfl
  | cons c cs ih => rw [List.cons_append, truthAny, truthAny, ih, Truth.or_assoc]

theorem truthUnder_singleton (c : Clause) : db.truthUnder connective [c] frame = truth c frame := by
  cases connective with
  | and => rw [truthUnder, truthAll, truthAll, Truth.and_yes]
  | or => rw [truthUnder, truthAny, truthAny, Truth.or_no]

/-- **The clause of several clauses has the value that they have under the connective.** -/
theorem truth_of_joined {clauses : List Clause} {c : Clause}
    (h : Clause.joined connective clauses = some c) :
    truth c frame = db.truthUnder connective clauses frame := by
  match clauses with
  | [] => cases h
  | [d] =>
    cases h
    exact (truthUnder_singleton c).symm
  | d :: e :: rest =>
    cases h
    cases connective <;> rw [truth] <;> rfl

end DatabaseState

namespace Clause

/-- **Several clauses say the same under a connective as others**: on both sides there
are none, or on neither, and they have one value in every state of the database and on
all rows. -/
structure SameUnder (connective : Connective) (cs ds : List Clause) : Prop where
  nil_iff : cs = [] ↔ ds = []
  truth_eq : ∀ (db : DatabaseState) (frame : db.Frame),
    db.truthUnder connective cs frame = db.truthUnder connective ds frame

variable {connective : Connective} {cs ds cs' ds' : List Clause}

theorem SameUnder.refl (connective : Connective) (cs : List Clause) :
    SameUnder connective cs cs :=
  ⟨Iff.rfl, fun _ _ => rfl⟩

theorem SameUnder.append (h : SameUnder connective cs ds) (h' : SameUnder connective cs' ds') :
    SameUnder connective (cs ++ cs') (ds ++ ds') := by
  refine ⟨by rw [List.append_eq_nil_iff, List.append_eq_nil_iff, h.nil_iff, h'.nil_iff],
    fun db frame => ?_⟩
  have hcs := h.truth_eq db frame
  have hcs' := h'.truth_eq db frame
  cases connective with
  | and =>
    simp only [DatabaseState.truthUnder] at hcs hcs' ⊢
    rw [DatabaseState.truthAll_append, DatabaseState.truthAll_append, hcs, hcs']
  | or =>
    simp only [DatabaseState.truthUnder] at hcs hcs' ⊢
    rw [DatabaseState.truthAny_append, DatabaseState.truthAny_append, hcs, hcs']

/-- **Several clauses say the same as the one clause that is made of them.** -/
theorem SameUnder.joined (connective : Connective) (cs : List Clause) :
    SameUnder connective cs (Clause.joined connective cs).toList := by
  refine ⟨by rw [Option.toList_eq_nil_iff, joined_eq_none], fun db frame => ?_⟩
  cases h : Clause.joined connective cs with
  | none => rw [joined_eq_none.mp h]; rfl
  | some c =>
    rw [Option.toList_some, DatabaseState.truthUnder_singleton,
      DatabaseState.truth_of_joined h]

/-- **Whether two conditions select alike**: both are none, or both are there and have one
value in every state of the database and on all rows. -/
def SelectAlike (o o' : Option Clause) : Prop :=
  (o = none ∧ o' = none) ∨ ∃ c c', o = some c ∧ o' = some c' ∧
    ∀ (db : DatabaseState) (frame : db.Frame), db.truth c frame = db.truth c' frame

theorem SameUnder.selectAlike (h : SameUnder connective cs ds) :
    SelectAlike (Clause.joined connective cs) (Clause.joined connective ds) := by
  cases hc : Clause.joined connective cs with
  | none =>
    have hds : ds = [] := h.nil_iff.mp (joined_eq_none.mp hc)
    exact Or.inl ⟨rfl, joined_eq_none.mpr hds⟩
  | some c =>
    have hne : Clause.joined connective ds ≠ none := fun hd => by
      rw [joined_eq_none.mpr (h.nil_iff.mpr (joined_eq_none.mp hd))] at hc
      cases hc
    obtain ⟨c', hc'⟩ := Option.ne_none_iff_exists'.mp hne
    refine Or.inr ⟨c, c', rfl, hc', fun db frame => ?_⟩
    rw [DatabaseState.truth_of_joined hc, DatabaseState.truth_of_joined hc', h.truth_eq]

end Clause

/-! ### The clauses of what is composed -/

section Composition

variable {metadata : Metadata} {source : Source} {depth : Nat}

theorem clause?_group (connective : Connective) (members : List Predicate) :
    clause? metadata source depth (.group connective members) =
      (memberClauses metadata source depth members).map (Clause.joined connective) := by
  rw [clause?]
  cases memberClauses metadata source depth members <;> rfl

theorem memberClauses_append (ps qs : List Predicate) :
    memberClauses metadata source depth (ps ++ qs) =
      (memberClauses metadata source depth ps).bind fun cs =>
        (memberClauses metadata source depth qs).map (cs ++ ·) := by
  induction ps with
  | nil =>
    rw [List.nil_append, memberClauses]
    cases memberClauses metadata source depth qs <;> rfl
  | cons p ps ih =>
    rw [List.cons_append, memberClauses, memberClauses, ih]
    cases clause? metadata source depth p with
    | error e => rfl
    | ok o =>
      cases memberClauses metadata source depth ps with
      | error e => rfl
      | ok cs =>
        cases memberClauses metadata source depth qs with
        | error e => rfl
        | ok ds => exact congrArg Except.ok (List.append_assoc o.toList cs ds).symm

theorem memberClauses_singleton (p : Predicate) :
    memberClauses metadata source depth [p] =
      (clause? metadata source depth p).map Option.toList := by
  rw [memberClauses, memberClauses]
  cases clause? metadata source depth p with
  | error e => rfl
  | ok o => exact congrArg Except.ok (List.append_nil o.toList)

/-- **The groups of one member around a predicate leave its clause as it is.** -/
theorem clause?_unwrapped (p : Predicate) :
    clause? metadata source depth p.unwrapped = clause? metadata source depth p := by
  fun_induction Predicate.unwrapped p with
  | case1 c p ih =>
    rw [ih, clause?_group, memberClauses_singleton]
    rcases clause? metadata source depth p with e | ⟨_ | clause⟩ <;> rfl
  | case2 => rfl

/-- **What a predicate contributes to a group has clauses that say the same as its own.** -/
theorem memberClauses_contribution (connective : Connective) (p : Predicate) :
    EndsSame (Clause.SameUnder connective)
      (memberClauses metadata source depth (p.contribution connective))
      (memberClauses metadata source depth [p]) := by
  have hself : ∀ q : Predicate, EndsSame (Clause.SameUnder connective)
      (memberClauses metadata source depth [q]) (memberClauses metadata source depth [q]) := by
    intro q
    exact .refl (.refl connective) _
  rw [memberClauses_singleton p, ← clause?_unwrapped p, ← memberClauses_singleton,
    Predicate.contribution]
  split
  next c members heq =>
    rw [heq]
    split
    next hempty =>
      rw [List.isEmpty_iff.mp hempty, memberClauses_singleton, clause?_group, memberClauses]
      exact .results (.refl connective [])
    next =>
      split
      next hc =>
        -- The members take the place of their group.
        subst hc
        rw [memberClauses_singleton, clause?_group]
        cases memberClauses metadata source depth members with
        | error e => exact .failure e
        | ok cs => exact .results (.joined c cs)
      next => exact hself _
  next => exact hself _

/-- Part by part, what is contributed to a group says the same as the parts. -/
theorem memberClauses_flatMap_contribution (connective : Connective) (parts : List Predicate) :
    EndsSame (Clause.SameUnder connective)
      (memberClauses metadata source depth (parts.flatMap (Predicate.contribution connective)))
      (memberClauses metadata source depth parts) := by
  induction parts with
  | nil => exact .results (.refl connective [])
  | cons p parts ih =>
    rw [List.flatMap_cons, ← List.singleton_append, memberClauses_append, memberClauses_append]
    exact (memberClauses_contribution connective p).bind fun _ _ h => ih.map fun _ _ => h.append

/-- **A composed group and the plain group of the same parts select alike**, whatever the
parts are: making their clauses fails with one failure, or both are no condition, or both
are conditions of one value in every state of the database and on all rows. -/
theorem clause?_of (metadata : Metadata) (source : Source) (depth : Nat) (connective : Connective)
    (parts : List Predicate) :
    EndsSame Clause.SelectAlike
      (clause? metadata source depth (Group.of connective parts).toPredicate)
      (clause? metadata source depth (.group connective parts)) := by
  rw [Group.toPredicate, Group.of, clause?_group, clause?_group]
  exact (memberClauses_flatMap_contribution connective parts).map fun _ _ h => h.selectAlike

end Composition

end Sql

end RelationalSearch
