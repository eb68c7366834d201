import RelationalSearch.Proofs.Evaluation
import RelationalSearch.Proofs.Outcome

/-!
# Predicates as clauses

The clause of a predicate is true of a row exactly when the predicate says so of
it (`RelationalSearch.Sql.DatabaseState.truth_of_clause?`), in every state of the
database. Three things have to come together.

* **The clause exists** when all tables and columns of the predicate do and every
  operand is one that its comparison admits (`RelationalSearch.Predicate.Fits`).
* **Nothing is captured.** A semi-join at a depth brings in occurrences of its own,
  none of which stands for a row outside (`RelationalSearch.Sql.Clause.Scoped`).
  It is joined to the occurrence right around it, so a table that is met again
  further down is another occurrence.
* **What asks for nothing disappears.** It has no clause, and so it is neither a
  condition nor an alternative of the group that it stands in.
-/

namespace RelationalSearch

open Sql

/-! ### Predicates that fit the tables -/

/-- Whether the operand is one that the comparison admits: a pattern is no truth
value, and alternatives are several values, not the letters of a text. -/
def Condition.Admitted (c : Condition) : Prop :=
  match c.comparison, c.value with
  | .like, .null | .like, .bool _ => False
  | .oneOf, .str _ | .oneOf, .bytes _ => False
  | .oneOf, v => v.alternatives?.isSome = true
  | _, _ => True

/-- The keys of a relation are columns of the tables that it leads between. -/
def Relation.Fits (relation : Relation) (metadata : Metadata) (table target : TableDef) : Prop :=
  relation.localKey ∈ table.columns ∧ relation.remoteKey ∈ target.columns ∧
    ∀ association, relation.secondary = some association →
      ∃ between, metadata.table association.table = .ok between ∧
        association.localKey ∈ between.columns ∧ association.remoteKey ∈ between.columns

namespace Predicate

mutual

/-- **Whether all tables and columns of a predicate exist**, seen from a table, and
all operands are admitted. -/
def Fits (metadata : Metadata) : Predicate → TableDef → Prop
  | condition c, table => c.column ∈ table.columns ∧ c.Admitted
  | group _ members, table => FitAll metadata members table
  | related relation targetTable _ members, table =>
    ∃ target, metadata.table targetTable = .ok target ∧ relation.Fits metadata table target ∧
      FitAll metadata members target

/-- Whether several predicates fit a table. -/
def FitAll (metadata : Metadata) : List Predicate → TableDef → Prop
  | [], _ => True
  | p :: rest, table => Fits metadata p table ∧ FitAll metadata rest table

end

end Predicate

namespace Sql

/-! ### Occurrences around a semi-join -/

/-- The occurrences that a semi-join at a depth may stand in: those that belong to
no semi-join, and those that come from further outside. -/
def Occurrence.Before (depth : Nat) : Occurrence → Prop
  | .root | .selected => True
  | .target d | .link d => d < depth

theorem Occurrence.Before.mono {depth depth' : Nat} (hdepth : depth ≤ depth') {o : Occurrence}
    (h : o.Before depth) : o.Before depth' := by
  cases o with
  | root | selected => trivial
  | target d | link d => exact Nat.lt_of_lt_of_le h hdepth

theorem Occurrence.Before.ne_target {depth : Nat} {o : Occurrence} (h : o.Before depth) :
    o ≠ .target depth := by
  rintro rfl
  exact Nat.lt_irrefl depth h

theorem Occurrence.Before.ne_link {depth : Nat} {o : Occurrence} (h : o.Before depth) :
    o ≠ .link depth := by
  rintro rfl
  exact Nat.lt_irrefl depth h

namespace Clause

/-- Whether a clause joins the target of a semi-join to an occurrence: by two
columns of their own, or by a column of the association table, which is joined to
the target. -/
def JoinsTo (depth : Nat) (outer : Occurrence) : Option Link → Clause → Prop
  | none, .same a b => a.occurrence = .target depth ∧ b.occurrence = outer
  | some link, .same a b =>
    link.column.occurrence = .link depth ∧ link.targetColumn.occurrence = .target depth ∧
      a.occurrence = .link depth ∧ b.occurrence = outer
  | _, _ => False

mutual

/-- **Whether a clause speaks of one occurrence**: all its comparisons are of
columns of that occurrence, and every semi-join in it brings in occurrences that
are not taken, joins its target to that occurrence and speaks of its target. -/
def Scoped : Clause → (outer : Occurrence) → (taken : List Occurrence) → Prop
  | equals c _, outer, _ | equalsTruth c _, outer, _ | like c _, outer, _
  | atLeast c _, outer, _ | atMost c _, outer, _ | between c _ _, outer, _
  | oneOf c _, outer, _ | isNull c, outer, _ | isPresent c, outer, _ => c.occurrence = outer
  | conj clauses, outer, taken => ScopedAll clauses outer taken
  | disj clauses, outer, taken => ScopedAll clauses outer taken
  | existsRow depth _ link (join :: criteria), outer, taken =>
    .target depth ∉ taken ∧ .link depth ∉ taken ∧ JoinsTo depth outer link join ∧
      ScopedAll criteria (.target depth) (.target depth :: .link depth :: taken)
  | existsRow _ _ _ [], _, _ | same .., _, _ => False

/-- Whether several clauses speak of one occurrence. -/
def ScopedAll : List Clause → (outer : Occurrence) → (taken : List Occurrence) → Prop
  | [], _, _ => True
  | c :: rest, outer, taken => Scoped c outer taken ∧ ScopedAll rest outer taken

end

variable {outer : Occurrence} {taken : List Occurrence}

theorem scopedAll_iff {clauses : List Clause} :
    ScopedAll clauses outer taken ↔ ∀ c ∈ clauses, c.Scoped outer taken := by
  induction clauses with
  | nil => exact iff_of_true trivial fun c hc => absurd hc List.not_mem_nil
  | cons c clauses ih => rw [ScopedAll, ih, List.forall_mem_cons]

theorem scoped_joined {connective : Connective} {clauses : List Clause}
    (h : ScopedAll clauses outer taken) : ∀ c ∈ joined connective clauses, c.Scoped outer taken := by
  match clauses with
  | [] => exact fun c hc => by cases hc
  | [d] =>
    rintro c ⟨⟩
    exact h.1
  | d :: e :: rest =>
    rintro c ⟨⟩
    cases connective with
    | and => exact h
    | or => exact h

end Clause

/-! ### What the parts of a clause are -/

variable {metadata : Metadata} {source : Source} {depth : Nat}

theorem Source.column_of_mem {name : String} (h : name ∈ source.table.columns) :
    source.column name = .ok ⟨source.occurrence, name⟩ := by
  rw [Source.column, if_pos (List.contains_iff_mem.mpr h)]

theorem Source.eq_of_column {name : String} {column : ColumnRef}
    (h : source.column name = .ok column) : column = ⟨source.occurrence, name⟩ := by
  rw [Source.column] at h
  split at h
  · exact (Except.ok.inj h).symm
  · cases h

/-- **How a semi-join is joined** to the occurrence around it: by the keys of the
relation, or through the association table. -/
inductive JoinedBy (metadata : Metadata) (relation : Relation) (outer : Occurrence) (depth : Nat) :
    Option Link → Clause → Prop
  | direct (h : relation.secondary = none) :
    JoinedBy metadata relation outer depth none
      (.same ⟨.target depth, relation.remoteKey⟩ ⟨outer, relation.localKey⟩)
  | through {association : Association} {between : TableDef}
      (h : relation.secondary = some association)
      (htable : metadata.table association.table = .ok between) :
    JoinedBy metadata relation outer depth
      (some ⟨between, ⟨.link depth, association.remoteKey⟩, ⟨.target depth, relation.remoteKey⟩⟩)
      (.same ⟨.link depth, association.localKey⟩ ⟨outer, relation.localKey⟩)

theorem joinedBy_of_joinClauses {relation : Relation} {targetTable : String} {target : TableDef}
    {secondary : Option (TableDef × Association)} {link : Option Link} {join : Clause}
    (htables : joinTables metadata relation targetTable = .ok (target, secondary))
    (hclauses : joinClauses relation source depth target secondary = .ok (link, join)) :
    metadata.table targetTable = .ok target ∧
      JoinedBy metadata relation source.occurrence depth link join := by
  obtain ⟨found, htarget, htables⟩ := exists_of_bind_ok htables
  cases hsecondary : relation.secondary with
  | none =>
    rw [hsecondary] at htables
    cases htables
    obtain ⟨remote, hremote, hclauses⟩ := exists_of_bind_ok hclauses
    obtain ⟨own, hown, hclauses⟩ := exists_of_bind_ok hclauses
    cases hclauses
    rw [Source.eq_of_column hremote, Source.eq_of_column hown]
    exact ⟨htarget, .direct hsecondary⟩
  | some association =>
    rw [hsecondary] at htables
    obtain ⟨between, hbetween, htables⟩ := exists_of_bind_ok htables
    cases htables
    obtain ⟨linked, hlinked, hclauses⟩ := exists_of_bind_ok hclauses
    obtain ⟨remote, hremote, hclauses⟩ := exists_of_bind_ok hclauses
    obtain ⟨near, hnear, hclauses⟩ := exists_of_bind_ok hclauses
    obtain ⟨own, hown, hclauses⟩ := exists_of_bind_ok hclauses
    cases hclauses
    rw [Source.eq_of_column hlinked, Source.eq_of_column hremote, Source.eq_of_column hnear,
      Source.eq_of_column hown]
    exact ⟨htarget, .through hsecondary hbetween⟩

/-- **The clause of a semi-join has all its parts.** -/
theorem of_clause?_related {relation : Relation} {targetTable : String} {connective : Connective}
    {members : List Predicate} {o : Option Clause}
    (h : clause? metadata source depth (.related relation targetTable connective members) = .ok o) :
    ∃ target link join clauses, metadata.table targetTable = .ok target ∧
      JoinedBy metadata relation source.occurrence depth link join ∧
      memberClauses metadata ⟨.target depth, target⟩ (depth + 1) members = .ok clauses ∧
      o = some (.existsRow depth target link
        (join :: (Clause.joined connective clauses).toList)) := by
  rw [clause?] at h
  obtain ⟨⟨target, secondary⟩, htables, h⟩ := exists_of_bind_ok h
  obtain ⟨⟨link, join⟩, hjoin, h⟩ := exists_of_bind_ok h
  obtain ⟨clauses, hclauses, h⟩ := exists_of_bind_ok h
  cases h
  obtain ⟨htarget, hjoined⟩ := joinedBy_of_joinClauses htables hjoin
  exact ⟨target, link, join, clauses, htarget, hjoined, hclauses, rfl⟩

theorem of_clause?_group {connective : Connective} {members : List Predicate} {o : Option Clause}
    (h : clause? metadata source depth (.group connective members) = .ok o) :
    ∃ clauses, memberClauses metadata source depth members = .ok clauses ∧
      o = Clause.joined connective clauses := by
  rw [clause?] at h
  obtain ⟨clauses, hclauses, h⟩ := exists_of_bind_ok h
  cases h
  exact ⟨clauses, hclauses, rfl⟩

theorem of_clause?_condition {c : Condition} {o : Option Clause}
    (h : clause? metadata source depth (.condition c) = .ok o) :
    ∃ clause, Clause.ofComparison ⟨source.occurrence, c.column⟩ c.comparison c.value = .ok clause ∧
      o = some clause := by
  rw [clause?] at h
  obtain ⟨column, hcolumn, h⟩ := exists_of_bind_ok h
  obtain ⟨clause, hclause, h⟩ := exists_of_bind_ok h
  cases h
  rw [Source.eq_of_column hcolumn] at hclause
  exact ⟨clause, hclause, rfl⟩

theorem of_memberClauses_cons {p : Predicate} {rest : List Predicate} {clauses : List Clause}
    (h : memberClauses metadata source depth (p :: rest) = .ok clauses) :
    ∃ o others, clause? metadata source depth p = .ok o ∧
      memberClauses metadata source depth rest = .ok others ∧ clauses = o.toList ++ others := by
  rw [memberClauses] at h
  obtain ⟨o, ho, h⟩ := exists_of_bind_ok h
  obtain ⟨others, hothers, h⟩ := exists_of_bind_ok h
  cases h
  exact ⟨o, others, ho, hothers, rfl⟩

/-! ### The clause exists -/

theorem exists_ofComparison {c : Condition} (h : c.Admitted) (column : ColumnRef) :
    ∃ clause, Clause.ofComparison column c.comparison c.value = .ok clause := by
  obtain ⟨name, comparison, value⟩ := c
  cases comparison with
  | equal => cases value <;> exact ⟨_, rfl⟩
  | isNull => exact ⟨_, rfl⟩
  | like =>
    cases value with
    | null | bool => exact absurd h id
    | _ => exact ⟨_, rfl⟩
  | oneOf =>
    cases value with
    | str | bytes => exact absurd h id
    | list | tuple | map | bag => exact ⟨_, rfl⟩
    | _ => cases h

/-- Alternatives are several values. -/
theorem exists_alternatives {column : ColumnRef} {value : Value} {clause : Clause}
    (h : Clause.ofComparison column .oneOf value = .ok clause) :
    ∃ values, value.alternatives? = some values ∧ clause = .oneOf column values := by
  cases value with
  | list | tuple | map | bag =>
    cases h
    exact ⟨_, rfl, rfl⟩
  | _ => cases h

theorem exists_joinClauses (depth : Nat) {relation : Relation} {targetTable : String} {target : TableDef}
    (htarget : metadata.table targetTable = .ok target)
    (h : relation.Fits metadata source.table target) :
    ∃ secondary, joinTables metadata relation targetTable = .ok (target, secondary) ∧
      ∃ parts, joinClauses relation source depth target secondary = .ok parts := by
  obtain ⟨hlocal, hremote, hassociation⟩ := h
  have hown := Source.column_of_mem hlocal
  have hremote : (Source.mk (.target depth) target).column relation.remoteKey = _ :=
    Source.column_of_mem hremote
  cases hsecondary : relation.secondary with
  | none =>
    exact ⟨none, by simp only [joinTables, htarget, hsecondary, bind, Except.bind, pure, Except.pure],
      _, by simp only [joinClauses, hremote, hown, bind, Except.bind, pure, Except.pure]; rfl⟩
  | some association =>
    obtain ⟨between, hbetween, hnear, hlinked⟩ := hassociation association hsecondary
    have hnear : (Source.mk (.link depth) between).column association.localKey = _ :=
      Source.column_of_mem hnear
    have hlinked : (Source.mk (.link depth) between).column association.remoteKey = _ :=
      Source.column_of_mem hlinked
    exact ⟨some (between, association),
      by simp only [joinTables, htarget, hsecondary, hbetween, bind, Except.bind, pure, Except.pure],
      _, by simp only [joinClauses, hlinked, hremote, hnear, hown, bind, Except.bind, pure,
        Except.pure]; rfl⟩

mutual

/-- **A predicate that fits has a clause**, if it asks for anything. -/
theorem exists_clause? (metadata : Metadata) :
    ∀ (p : Predicate) (source : Source) (depth : Nat), p.Fits metadata source.table →
      ∃ o, clause? metadata source depth p = .ok o
  | .condition c, source, depth, h => by
    obtain ⟨clause, hclause⟩ := exists_ofComparison h.2 ⟨source.occurrence, c.column⟩
    refine ⟨some clause, ?_⟩
    simp only [clause?, Source.column_of_mem h.1, hclause, bind, Except.bind, pure, Except.pure]
  | .group connective members, source, depth, h => by
    obtain ⟨clauses, hclauses⟩ := exists_memberClauses metadata members source depth h
    exact ⟨Clause.joined connective clauses, by
      simp only [clause?, hclauses, bind, Except.bind, pure, Except.pure]⟩
  | .related relation targetTable connective members, source, depth, h => by
    obtain ⟨target, htarget, hrelation, hmembers⟩ := h
    obtain ⟨secondary, htables, ⟨link, join⟩, hjoin⟩ :=
      exists_joinClauses depth htarget hrelation
    obtain ⟨clauses, hclauses⟩ :=
      exists_memberClauses metadata members ⟨.target depth, target⟩ (depth + 1) hmembers
    exact ⟨_, by simp only [clause?, htables, hjoin, hclauses, bind, Except.bind, pure,
      Except.pure]; rfl⟩

/-- So have several predicates. -/
theorem exists_memberClauses (metadata : Metadata) :
    ∀ (ps : List Predicate) (source : Source) (depth : Nat),
      Predicate.FitAll metadata ps source.table →
      ∃ clauses, memberClauses metadata source depth ps = .ok clauses
  | [], _, _, _ => ⟨[], by rw [memberClauses]; rfl⟩
  | p :: rest, source, depth, h => by
    obtain ⟨o, ho⟩ := exists_clause? metadata p source depth h.1
    obtain ⟨clauses, hclauses⟩ := exists_memberClauses metadata rest source depth h.2
    exact ⟨o.toList ++ clauses, by
      simp only [memberClauses, ho, hclauses, bind, Except.bind, pure, Except.pure]⟩

end

/-! ### What asks for nothing has no clause -/

theorem joined_eq_none {connective : Connective} {clauses : List Clause} :
    Clause.joined connective clauses = none ↔ clauses = [] := by
  match clauses with
  | [] => exact iff_of_true rfl rfl
  | [d] => exact iff_of_false (by simp [Clause.joined]) (by simp)
  | d :: e :: rest => exact iff_of_false (by simp [Clause.joined]) (by simp)

mutual

/-- **A predicate has no clause exactly when it asks for nothing.** -/
theorem clause?_eq_none :
    ∀ (p : Predicate) {o : Option Clause}, clause? metadata source depth p = .ok o →
      (o = none ↔ p.asksNothing = true)
  | .condition c, o, h => by
    obtain ⟨clause, -, rfl⟩ := of_clause?_condition h
    exact iff_of_false (by simp) (by simp [Predicate.asksNothing])
  | .group connective members, o, h => by
    obtain ⟨clauses, hclauses, rfl⟩ := of_clause?_group h
    rw [joined_eq_none, memberClauses_eq_nil members hclauses, Predicate.asksNothing]
  | .related relation targetTable connective members, o, h => by
    obtain ⟨target, link, join, clauses, -, -, -, rfl⟩ := of_clause?_related h
    exact iff_of_false (by simp) (by simp [Predicate.asksNothing])

/-- So it is with several predicates. -/
theorem memberClauses_eq_nil :
    ∀ (ps : List Predicate) {clauses : List Clause},
      memberClauses metadata source depth ps = .ok clauses →
      (clauses = [] ↔ Predicate.allAskNothing ps = true)
  | [], clauses, h => by
    rw [memberClauses] at h
    cases h
    exact iff_of_true rfl rfl
  | p :: rest, clauses, h => by
    obtain ⟨o, others, ho, hothers, rfl⟩ := of_memberClauses_cons h
    rw [List.append_eq_nil_iff, Option.toList_eq_nil_iff, clause?_eq_none p ho,
      memberClauses_eq_nil rest hothers, Predicate.allAskNothing, Bool.and_eq_true]

end

/-! ### Nothing is captured -/

theorem scoped_ofComparison {column : ColumnRef} {comparison : Comparison} {value : Value}
    {clause : Clause} {taken : List Occurrence}
    (h : Clause.ofComparison column comparison value = .ok clause) :
    clause.Scoped column.occurrence taken := by
  cases comparison with
  | isNull =>
    cases h
    rfl
  | equal =>
    cases value <;>
    · cases h
      rfl
  | like =>
    cases value with
    | null | bool => cases h
    | _ =>
      cases h
      rfl
  | oneOf =>
    obtain ⟨values, -, rfl⟩ := exists_alternatives h
    rfl

theorem JoinedBy.joinsTo {relation : Relation} {outer : Occurrence} {link : Option Link}
    {join : Clause} (h : JoinedBy metadata relation outer depth link join) :
    Clause.JoinsTo depth outer link join := by
  cases h with
  | direct => exact ⟨rfl, rfl⟩
  | through => exact ⟨rfl, rfl, rfl, rfl⟩

mutual

/-- **A clause speaks of the occurrence it is made for**, whatever occurrences from
further outside are taken. -/
theorem scoped_of_clause? :
    ∀ (p : Predicate) {source : Source} {depth : Nat} {taken : List Occurrence}
      {o : Option Clause}, (∀ t ∈ taken, t.Before depth) →
      clause? metadata source depth p = .ok o → ∀ c ∈ o, c.Scoped source.occurrence taken
  | .condition c, source, depth, taken, o, _, h => by
    obtain ⟨clause, hclause, rfl⟩ := of_clause?_condition h
    simp only [Option.mem_def, Option.some.injEq, forall_eq']
    exact scoped_ofComparison hclause
  | .group connective members, source, depth, taken, o, htaken, h => by
    obtain ⟨clauses, hclauses, rfl⟩ := of_clause?_group h
    exact Clause.scoped_joined (scoped_of_memberClauses members htaken hclauses)
  | .related relation targetTable connective members, source, depth, taken, o, htaken, h => by
    obtain ⟨target, link, join, clauses, -, hjoined, hclauses, rfl⟩ := of_clause?_related h
    simp only [Option.mem_def, Option.some.injEq, forall_eq']
    -- Further in, the occurrences of this semi-join are taken too.
    have hbelow : ∀ t ∈ .target depth :: .link depth :: taken, t.Before (depth + 1) := by
      rw [List.forall_mem_cons, List.forall_mem_cons]
      exact ⟨Nat.lt_succ_self depth, Nat.lt_succ_self depth, fun t ht =>
        (htaken t ht).mono (Nat.le_succ depth)⟩
    refine ⟨fun hc => (htaken _ hc).ne_target rfl, fun hc => (htaken _ hc).ne_link rfl,
      hjoined.joinsTo, Clause.scopedAll_iff.mpr fun c hc => ?_⟩
    exact Clause.scoped_joined (scoped_of_memberClauses members hbelow hclauses) c
      (Option.mem_toList.mp hc)

/-- So do the clauses of several predicates. -/
theorem scoped_of_memberClauses :
    ∀ (ps : List Predicate) {source : Source} {depth : Nat} {taken : List Occurrence}
      {clauses : List Clause}, (∀ t ∈ taken, t.Before depth) →
      memberClauses metadata source depth ps = .ok clauses →
      Clause.ScopedAll clauses source.occurrence taken
  | [], source, depth, taken, clauses, _, h => by
    rw [memberClauses] at h
    cases h
    trivial
  | p :: rest, source, depth, taken, clauses, htaken, h => by
    obtain ⟨o, others, ho, hothers, rfl⟩ := of_memberClauses_cons h
    rw [Clause.scopedAll_iff, List.forall_mem_append]
    exact ⟨fun c hc => scoped_of_clause? p htaken ho c (Option.mem_toList.mp hc),
      Clause.scopedAll_iff.mp (scoped_of_memberClauses rest htaken hothers)⟩

end

/-! ### The clause means what the predicate means -/

namespace DatabaseState

variable {db : DatabaseState} {frame : db.Frame}

theorem truth_ofComparison {c : Condition} {outer : Occurrence} {clause : Clause}
    (h : Clause.ofComparison ⟨outer, c.column⟩ c.comparison c.value = .ok clause) :
    truth clause frame = .yes ↔ db.test c (frame outer) := by
  obtain ⟨column, comparison, value⟩ := c
  have hvalue : ∀ {compare : db.Stored → Value → Prop} {v : Value}, v ≠ .null →
      (compared compare (frame.get ⟨outer, column⟩) v = .yes ↔
        ∃ s, db.cell (frame outer) column = some s ∧ compare s v) := by
    intro compare v hv
    rw [compared_eq_yes]
    exact and_iff_right hv
  cases comparison with
  | isNull =>
    cases h
    rw [truth, Truth.of_eq_yes]
    rfl
  | equal =>
    cases value with
    | null =>
      cases h
      rw [truth, Truth.of_eq_yes]
      rfl
    | _ =>
      cases h
      rw [truth, hvalue (by simp)]
      rfl
  | like =>
    cases value with
    | null | bool => cases h
    | _ =>
      cases h
      rw [truth, hvalue (by simp)]
      rfl
  | oneOf =>
    obtain ⟨values, hvalues, rfl⟩ := exists_alternatives h
    rw [truth_oneOf_eq_yes]
    simp only [test, hvalues, Option.some.injEq, exists_eq_left']
    rfl

/-- **A semi-join is true exactly when some related row is as its criteria say**,
provided that they are about the target. -/
theorem truth_existsRow {relation : Relation} {targetTable : String} {outer : Occurrence}
    {target : TableDef} {link : Option Link} {join : Clause} {criteria : List Clause}
    (houter : outer.Before depth) (htarget : metadata.table targetTable = .ok target)
    (hjoined : JoinedBy metadata relation outer depth link join) {asked : db.Row → Prop}
    (hcriteria : ∀ inner : db.Frame,
      (∀ c ∈ criteria, truth c inner = .yes) ↔ asked (inner (.target depth))) :
    truth (.existsRow depth target link (join :: criteria)) frame = .yes ↔
      ∃ other, (db.contents metadata).related relation targetTable (frame outer) other ∧
        asked other := by
  cases hjoined with
  | direct hsecondary =>
    rw [truth, Truth.of_eq_yes]
    refine exists_congr fun row => ?_
    rw [truthAll_eq_yes, List.forall_mem_cons, hcriteria, truth, comparedCells_comm,
      comparedCells_eq_yes, related_direct htarget hsecondary, and_assoc]
    simp only [Frame.get, Frame.put_self, frame.put_of_ne row houter.ne_target]
    rfl
  | through hsecondary hbetween =>
    rw [truth, Truth.of_eq_yes]
    refine exists_congr fun row => ?_
    have hne : Occurrence.target depth ≠ .link depth := by simp
    simp only [truthAll_eq_yes, List.forall_mem_cons, hcriteria, truth, Frame.get, Frame.put_self,
      Frame.put_of_ne _ _ hne, Frame.put_of_ne _ _ houter.ne_link,
      frame.put_of_ne row houter.ne_target]
    rw [related_through htarget hsecondary hbetween, and_assoc]
    -- The row of the association table is bound outside the criteria, which are not about it.
    constructor
    · rintro ⟨between, hrow, hlink, hlinked, hnear, hasked⟩
      exact ⟨hrow, ⟨between, hlink, comparedCells_eq_yes.mp (comparedCells_comm.mp hnear),
        comparedCells_eq_yes.mp hlinked⟩, hasked⟩
    · rintro ⟨hrow, ⟨between, hlink, hnear, hlinked⟩, hasked⟩
      exact ⟨between, hrow, hlink, comparedCells_eq_yes.mpr hlinked,
        comparedCells_comm.mp (comparedCells_eq_yes.mpr hnear), hasked⟩

/-- Clauses that are made of several predicates, joined to the clause of their
group. -/
theorem truth_joined {connective : Connective} {ps : List Predicate} {clauses : List Clause}
    {row : db.Row} (hnil : clauses = [] ↔ Predicate.allAskNothing ps = true)
    (h : ((∀ c ∈ clauses, truth c frame = .yes) ↔
        (db.contents metadata).SatisfiesAll db.test ps row) ∧
      ((∃ c ∈ clauses, truth c frame = .yes) ↔
        (db.contents metadata).SatisfiesSome db.test ps row)) :
    (∀ c ∈ Clause.joined connective clauses, truth c frame = .yes) ↔
      (db.contents metadata).Satisfies db.test (.group connective ps) row := by
  rw [forall_joined]
  cases connective with
  | and => rw [truthAll_eq_yes, h.1, Contents.Satisfies]
  | or => rw [truthAny_eq_yes, h.2, hnil, Contents.Satisfies]

mutual

/-- **The clause of a predicate is true exactly when the predicate holds**, of the
row of the occurrence that the clause is made for. -/
theorem truth_of_clause? :
    ∀ (p : Predicate) {source : Source} {depth : Nat} {o : Option Clause} (frame : db.Frame),
      source.occurrence.Before depth → clause? metadata source depth p = .ok o →
      ((∀ c ∈ o, truth c frame = .yes) ↔
        (db.contents metadata).Satisfies db.test p (frame source.occurrence))
  | .condition c, source, depth, o, frame, _, h => by
    obtain ⟨clause, hclause, rfl⟩ := of_clause?_condition h
    simp only [Option.mem_def, Option.some.injEq, forall_eq']
    exact truth_ofComparison hclause
  | .group connective members, source, depth, o, frame, hsource, h => by
    obtain ⟨clauses, hclauses, rfl⟩ := of_clause?_group h
    exact truth_joined (memberClauses_eq_nil members hclauses)
      (truth_of_memberClauses members frame hsource hclauses)
  | .related relation targetTable connective members, source, depth, o, frame, hsource, h => by
    obtain ⟨target, link, join, clauses, htarget, hjoined, hclauses, rfl⟩ := of_clause?_related h
    simp only [Option.mem_def, Option.some.injEq, forall_eq']
    refine (truth_existsRow hsource htarget hjoined fun inner => ?_).trans
      (Contents.satisfies_related (g := ⟨connective, members⟩)).symm
    simp only [Option.mem_toList]
    -- What stands inside is evaluated with the related row in the place of the target.
    have hinner : (Source.mk (.target depth) target).occurrence.Before (depth + 1) :=
      Nat.lt_succ_self depth
    exact truth_joined (memberClauses_eq_nil members hclauses)
      (truth_of_memberClauses members inner hinner hclauses)

/-- The clauses of several predicates are all true, or some of them are, exactly when
the predicates hold that way. -/
theorem truth_of_memberClauses :
    ∀ (ps : List Predicate) {source : Source} {depth : Nat} {clauses : List Clause}
      (frame : db.Frame), source.occurrence.Before depth →
      memberClauses metadata source depth ps = .ok clauses →
      ((∀ c ∈ clauses, truth c frame = .yes) ↔
        (db.contents metadata).SatisfiesAll db.test ps (frame source.occurrence)) ∧
      ((∃ c ∈ clauses, truth c frame = .yes) ↔
        (db.contents metadata).SatisfiesSome db.test ps (frame source.occurrence))
  | [], source, depth, clauses, frame, _, h => by
    rw [memberClauses] at h
    cases h
    exact ⟨iff_of_true (fun c hc => absurd hc List.not_mem_nil) trivial,
      iff_of_false (fun ⟨c, hc, _⟩ => List.not_mem_nil hc) id⟩
  | p :: rest, source, depth, clauses, frame, hsource, h => by
    obtain ⟨o, others, ho, hothers, rfl⟩ := of_memberClauses_cons h
    obtain ⟨hall, hsome⟩ := truth_of_memberClauses rest frame hsource hothers
    have hp := truth_of_clause? p frame hsource ho
    have hnone := clause?_eq_none p ho
    rw [Contents.SatisfiesAll, Contents.SatisfiesSome, ← hall, ← hsome, ← hp,
      ← Bool.not_eq_true, ← hnone]
    -- Without a clause the predicate is dropped, here as there.
    cases o with
    | none => simp
    | some c => simp [or_imp, forall_and, or_and_right, exists_or]

end

end DatabaseState

/-- **A clause means what its predicate means.** A predicate that fits the tables
has a clause unless it asks for nothing. The clause speaks of the occurrence that it
is made for and captures no other, and in every state of the database it is true
exactly when the predicate holds of the row of that occurrence. -/
theorem clause?_means {p : Predicate} {taken : List Occurrence}
    (hsource : source.occurrence.Before depth) (htaken : ∀ t ∈ taken, t.Before depth)
    (hfits : p.Fits metadata source.table) :
    ∃ o, clause? metadata source depth p = .ok o ∧ (o = none ↔ p.asksNothing = true) ∧
      ∀ c, o = some c → c.Scoped source.occurrence taken ∧
        ∀ (db : DatabaseState) (frame : db.Frame), db.truth c frame = .yes ↔
          (db.contents metadata).Satisfies db.test p (frame source.occurrence) := by
  obtain ⟨o, ho⟩ := exists_clause? metadata p source depth hfits
  refine ⟨o, ho, clause?_eq_none p ho, ?_⟩
  rintro c rfl
  refine ⟨scoped_of_clause? p htaken ho c rfl, fun db frame => ?_⟩
  have hmeans := DatabaseState.truth_of_clause? p frame hsource ho
  simpa only [Option.mem_def, Option.some.injEq, forall_eq'] using hmeans

/-! ### Kinship

Persons with their children and their friends: two relations of one table to
itself, one of them through an association table. -/

namespace Kinship

def persons : TableDef := ⟨none, "persons", ["id", "parent_id", "name"]⟩

def friendships : TableDef := ⟨none, "friendships", ["person_id", "friend_id"]⟩

def tables : Metadata := ⟨[persons, friendships]⟩

def children : Relation := ⟨"children", "Person", "id", "parent_id", none⟩

def friends : Relation :=
  ⟨"friends", "Person", "id", "id", some ⟨"friendships", "person_id", "friend_id"⟩⟩

/-- Persons of a name, or with a child that has both a child of some name and a
friend of some names or without a parent; one alternative asks for nothing. -/
def sought : Predicate :=
  .group .or [.group .and [.group .or []], .condition ⟨"name", .equal, .str "Ada"⟩,
    .related children "persons" .and
      [.related children "persons" .and [.condition ⟨"name", .like, .str "%o%"⟩],
        .related friends "persons" .or
          [.condition ⟨"name", .oneOf, .list [.str "Bo", .null]⟩,
            .condition ⟨"parent_id", .isNull, .null⟩, .group .and []]]]

theorem fits_sought : sought.Fits tables persons := by
  have htable : tables.table "persons" = .ok persons := rfl
  have hlink : tables.table "friendships" = .ok friendships := rfl
  simp [sought, Predicate.Fits, Predicate.FitAll, Relation.Fits, Condition.Admitted, htable,
    hlink, children, friends, persons, friendships, Value.alternatives?]

end Kinship

/-- Semi-joins of a table to itself, one inside the other and through an association
table. -/
theorem clause?_means_kinship :
    Occurrence.root.Before 0 ∧ (∀ t ∈ [Occurrence.root, .selected], t.Before 0) ∧
      Kinship.sought.Fits Kinship.tables Kinship.persons ∧
      ∃ o, clause? Kinship.tables ⟨.root, Kinship.persons⟩ 0 Kinship.sought = .ok o ∧
        (o = none ↔ Kinship.sought.asksNothing = true) ∧
        ∀ c, o = some c → c.Scoped .root [.root, .selected] ∧
          ∀ (db : DatabaseState) (frame : db.Frame), db.truth c frame = .yes ↔
            (db.contents Kinship.tables).Satisfies db.test Kinship.sought (frame .root) := by
  have htaken : ∀ t ∈ [Occurrence.root, .selected], t.Before 0 := by simp [Occurrence.Before]
  have hroot : (Source.mk .root Kinship.persons).occurrence.Before 0 := trivial
  exact ⟨trivial, htaken, Kinship.fits_sought, clause?_means hroot htaken Kinship.fits_sought⟩

end Sql

end RelationalSearch
