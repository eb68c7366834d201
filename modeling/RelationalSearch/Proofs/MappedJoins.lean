import Mathlib.Tactic.Common
import RelationalSearch.Entity.Mapped
import RelationalSearch.Proofs.Translation

/-!
# Relations of mapped classes

A mapper joins the rows of two tables by pairs of equal columns, as many as it takes, directly
or on both sides of an association table (`RelationalSearch.MappedJoin`). A relation has one key
on each side, so it keeps the first pair. The pairs of a direct join are listed with the own
column first; those of an association table are listed with the column first that is referred
to, which is the own one as long as the association table refers to the others.

The main statement is `RelationalSearch.MappedJoin.derived_joins`: the semi-join of a derived
relation is true of a row exactly when a row that agrees with it in the first pairs satisfies
its group. If there is one pair on each side, this is the join of the mapper.
-/

namespace RelationalSearch

open Sql

/-! ### Joins of a mapper -/

/-- A pair of equal columns on one side of an association table. -/
structure LinkPair where
  /-- The column of the source or of the target. -/
  own : String
  /-- The column of the association table. -/
  link : String
  /-- Whether the first one refers to the second one, and not the other way round. -/
  ownRefers : Bool
  deriving DecidableEq, Repr

/-- **How a mapper joins the rows of two tables**: all pairs of columns are equal. -/
inductive MappedJoin where
  /-- Pairs of a column of the source and one of the target. -/
  | direct (pairs : List (String × String))
  /-- Pairs on both sides of an association table. -/
  | through (table : String) (near far : List LinkPair)
  deriving DecidableEq, Repr

/-- How a pair is listed: the column that is referred to comes first. -/
def LinkPair.listed (p : LinkPair) : String × String :=
  if p.ownRefers then (p.link, p.own) else (p.own, p.link)

namespace MappedJoin

/-- **The pairs of a join as the mapper lists them.** -/
def listed : MappedJoin → Join
  | direct pairs => .direct pairs
  | through table near far => .through table (near.map LinkPair.listed) (far.map LinkPair.listed)

/-- A join by the first pair on each side. -/
def first : MappedJoin → MappedJoin
  | direct pairs => direct (pairs.take 1)
  | through table near far => through table (near.take 1) (far.take 1)

/-- Whether there is one pair on each side. -/
def IsSingle : MappedJoin → Prop
  | direct pairs => pairs.length = 1
  | through _ near far => near.length = 1 ∧ far.length = 1

/-- **Whether each side has a pair, and the first one is listed with the own column first.** -/
def StartsHome : MappedJoin → Prop
  | direct pairs => pairs ≠ []
  | through _ near far =>
    (∃ p ∈ near.head?, p.ownRefers = false) ∧ ∃ p ∈ far.head?, p.ownRefers = false

/-- Whether the tables have all columns of a join. -/
def Fits (metadata : Metadata) (table target : TableDef) : MappedJoin → Prop
  | direct pairs => ∀ p ∈ pairs, p.1 ∈ table.columns ∧ p.2 ∈ target.columns
  | through name near far => ∃ between, metadata.table name = .ok between ∧
      (∀ p ∈ near, p.own ∈ table.columns ∧ p.link ∈ between.columns) ∧
      ∀ p ∈ far, p.own ∈ target.columns ∧ p.link ∈ between.columns

theorem first_of_isSingle {join : MappedJoin} (h : join.IsSingle) : join.first = join := by
  cases join with
  | direct pairs => rw [first, List.take_of_length_le (Nat.le_of_eq h)]
  | through table near far =>
    rw [first, List.take_of_length_le (Nat.le_of_eq h.1),
      List.take_of_length_le (Nat.le_of_eq h.2)]

end MappedJoin

/-- **A row of the target is joined to a row**: all pairs of columns are equal, perhaps with a
row of the association table in between. -/
def Contents.Joins (db : Contents) (join : MappedJoin) (targetTable : String)
    (row other : db.Row) : Prop :=
  db.rows targetTable other ∧
    match join with
    | .direct pairs => ∀ p ∈ pairs, db.sameKey row p.1 other p.2
    | .through table near far => ∃ between, db.rows table between ∧
        (∀ p ∈ near, db.sameKey row p.own between p.link) ∧
        ∀ p ∈ far, db.sameKey between p.link other p.own

/-- A row is joined to one that satisfies a group. -/
def Contents.JoinsSome (db : Contents) (test : Condition → db.Row → Prop) (join : MappedJoin)
    (targetTable : String) (g : Group) (row : db.Row) : Prop :=
  ∃ other, db.Joins join targetTable row other ∧ db.Satisfies test g.toPredicate other

/-- Rows that are joined agree in the first pairs. -/
theorem Contents.Joins.first {db : Contents} {join : MappedJoin} {targetTable : String}
    {row other : db.Row} (h : db.Joins join targetTable row other) :
    db.Joins join.first targetTable row other := by
  refine ⟨h.1, ?_⟩
  cases join with
  | direct pairs => exact fun p hp => h.2 p (List.mem_of_mem_take hp)
  | through table near far =>
    obtain ⟨between, hbetween, hnear, hfar⟩ := h.2
    exact ⟨between, hbetween, fun p hp => hnear p (List.mem_of_mem_take hp),
      fun p hp => hfar p (List.mem_of_mem_take hp)⟩

/-! ### The relation that follows a join -/

namespace MappedJoin

variable {join : MappedJoin} {relation : Relation} {name target : String}

/-- **What is kept of a join that starts home**: the first pair on each side. -/
inductive KeptBy (relation : Relation) : MappedJoin → Prop
  | direct {pairs : List (String × String)} (hsecondary : relation.secondary = none) :
    KeptBy relation (.direct ((relation.localKey, relation.remoteKey) :: pairs))
  | through {table localKey remoteKey : String} {near far : List LinkPair}
      (hsecondary : relation.secondary = some ⟨table, localKey, remoteKey⟩) :
    KeptBy relation (.through table (⟨relation.localKey, localKey, false⟩ :: near)
      (⟨relation.remoteKey, remoteKey, false⟩ :: far))

/-- A join that starts home gives a relation. -/
theorem exists_ofJoin? (h : join.StartsHome) (name target : String) :
    ∃ relation, Relation.ofJoin? name target join.listed = some relation ∧
      relation.name = name ∧ relation.target = target ∧ KeptBy relation join := by
  cases join with
  | direct pairs =>
    cases pairs with
    | nil => exact absurd rfl h
    | cons p rest => exact ⟨_, rfl, rfl, rfl, .direct rfl⟩
  | through table near far =>
    obtain ⟨⟨p, hp, hhome⟩, q, hq, hhome'⟩ := h
    cases near with
    | nil => cases hp
    | cons p' near =>
      cases hp
      cases far with
      | nil => cases hq
      | cons q' far =>
        cases hq
        obtain ⟨own, link, ownRefers⟩ := p
        obtain ⟨own', link', ownRefers'⟩ := q
        subst hhome hhome'
        exact ⟨_, rfl, rfl, rfl, .through rfl⟩

/-- **The rows that a relation relates are those that agree in the first pairs.** -/
theorem KeptBy.related_iff (h : KeptBy relation join) {db : Contents} {targetTable : String}
    {row other : db.Row} :
    db.related relation targetTable row other ↔ db.Joins join.first targetTable row other := by
  refine and_congr_right fun _ => ?_
  cases h with
  | direct hsecondary =>
    simp only [hsecondary, first, List.take_succ_cons, List.take_zero, List.mem_singleton,
      forall_eq]
  | through hsecondary =>
    simp only [hsecondary, first, List.take_succ_cons, List.take_zero, List.mem_singleton,
      forall_eq]

theorem KeptBy.fits (h : KeptBy relation join) {metadata : Metadata} {table targetTable : TableDef}
    (hfits : join.Fits metadata table targetTable) :
    relation.Fits metadata table targetTable := by
  cases h with
  | direct hsecondary =>
    obtain ⟨hown, hother⟩ := hfits _ List.mem_cons_self
    refine ⟨hown, hother, fun association hassociation => ?_⟩
    rw [hsecondary] at hassociation
    cases hassociation
  | through hsecondary =>
    obtain ⟨between, hbetween, hnear, hfar⟩ := hfits
    obtain ⟨hown, hlink⟩ := hnear _ List.mem_cons_self
    obtain ⟨hown', hlink'⟩ := hfar _ List.mem_cons_self
    refine ⟨hown, hown', fun association hassociation => ?_⟩
    rw [hsecondary] at hassociation
    cases hassociation
    exact ⟨between, hbetween, hlink, hlink'⟩

/-- **The semi-join of a relation can be written, and it is true of a row exactly when a row that
agrees with it in the first pairs satisfies the group.** -/
theorem KeptBy.exists_clause? (h : KeptBy relation join) {metadata : Metadata} {source : Sql.Source}
    {depth : Nat} {targetTable : String} {targetDef : TableDef} {g : Group}
    (hsource : source.occurrence.Before depth)
    (htarget : metadata.table targetTable = .ok targetDef)
    (hfits : join.Fits metadata source.table targetDef)
    (hmembers : Predicate.FitAll metadata g.members targetDef) :
    ∃ clause, clause? metadata source depth (g.related relation targetTable) = .ok (some clause) ∧
      ∀ (db : DatabaseState) (frame : db.Frame), db.truth clause frame = .yes ↔
        (db.contents metadata).JoinsSome db.test join.first targetTable g
          (frame source.occurrence) := by
  have hpredicate : (g.related relation targetTable).Fits metadata source.table :=
    ⟨targetDef, htarget, h.fits hfits, hmembers⟩
  obtain ⟨o, ho⟩ := Sql.exists_clause? metadata _ source depth hpredicate
  cases o with
  | none =>
    -- A semi-join always asks for something.
    exact absurd ((clause?_eq_none _ ho).mp rfl) (by simp [Group.related, Predicate.asksNothing])
  | some clause =>
    refine ⟨clause, ho, fun db frame => ?_⟩
    have hmeans := DatabaseState.truth_of_clause? _ frame hsource ho
    simp only [Option.mem_def, Option.some.injEq, forall_eq'] at hmeans
    rw [hmeans, Contents.satisfies_related]
    exact exists_congr fun other => and_congr_left fun _ => h.related_iff

end MappedJoin

/-! ### The joins of mapped tables -/

namespace Mapping

/-- A reference between a table and an association table as a pair of columns. -/
def Reference.linkPair (association : String) (r : Reference) : LinkPair :=
  if r.table == association then ⟨r.referred, r.referring, false⟩
  else ⟨r.referring, r.referred, true⟩

theorem Reference.listed_linkPair (association : String) (r : Reference) :
    (r.linkPair association).listed = (r.referred, r.referring) := by
  unfold linkPair
  split <;> rfl

/-- The pairs of a direct join. -/
def pairsOf : Join → List (String × String)
  | .direct pairs => pairs
  | .through .. => []

/-- **How a relationship of mapped tables is joined**, whichever of two tables refers to the
other. -/
def mappedJoin (m : Mapping) (owner : MappedClass) (r : Relationship) :
    Except Fault MappedJoin := do
  match m.class? r.target with
  | none => throw .badMapping
  | some target =>
    match r.secondary with
    | some name =>
      match m.associations.find? fun t => t.name == name with
      | none => throw .badMapping
      | some association =>
        let far ← joinReference target.table association
        let near ← joinReference owner.table association
        return .through name [near.linkPair association.name] [far.linkPair association.name]
    | none =>
      let reference ← joinReference owner.table target.table
      if owner.table.name == target.table.name then
        return .direct (pairsOf (← selfJoin owner.table reference r.remoteSide))
      else if reference.table == target.table.name then
        return .direct [(reference.referred, reference.referring)]
      else return .direct [(reference.referring, reference.referred)]

/-- A join of a table with itself is direct. -/
theorem direct_pairsOf {table : MappedTable} {r : Reference} {remoteSide : Option String}
    {join : Join} (h : selfJoin table r remoteSide = .ok join) : .direct (pairsOf join) = join := by
  unfold selfJoin at h
  split at h
  · cases h
    rfl
  · extract_lets column at h
    split at h
    · cases h
      rfl
    · split at h
      · cases h
        rfl
      · cases h

/-- **The pairs that are read off a relationship are those of its join, as they are listed.** -/
theorem join_eq (m : Mapping) (owner : MappedClass) (r : Relationship) :
    m.join owner r = (m.mappedJoin owner r).map MappedJoin.listed := by
  unfold join mappedJoin
  cases m.class? r.target with
  | none => rfl
  | some target =>
    cases r.secondary with
    | some name =>
      dsimp only
      cases m.associations.find? fun t => t.name == name with
      | none => rfl
      | some association =>
        dsimp only
        cases joinReference target.table association with
        | error fault => rfl
        | ok far =>
          cases joinReference owner.table association with
          | error fault => rfl
          | ok near =>
            simp only [bind, Except.bind, pure, Except.pure, Except.map, MappedJoin.listed,
              List.map_cons, List.map_nil, Reference.listed_linkPair]
    | none =>
      dsimp only
      cases joinReference owner.table target.table with
      | error fault => rfl
      | ok reference =>
        simp only [bind, Except.bind]
        split
        · cases hself : selfJoin owner.table reference r.remoteSide with
          | error fault => rfl
          | ok join => exact congrArg Except.ok (direct_pairsOf hself).symm
        · split <;> rfl

end Mapping

/-! ### The relations that are derived -/

/-- Relations with one more under its name, unless there is one. -/
def noted (found : List (String × Relation)) (name : String) (relation : Relation) :
    List (String × Relation) :=
  if found.any fun e => e.1 == name then found else found ++ [(name, relation)]

/-- Derives the relation of a name from what a mapper tells of the relationship; a name without
a relationship is left out. -/
def noteRelation (mapper : Relationship → Except Fault MappedJoin) (c : MappedClass)
    (found : List (String × Relation)) (name : String) : Except Fault (List (String × Relation)) :=
  match c.relationships.find? fun r => r.name == name with
  | none => .ok found
  | some r => (mapper r).map fun join =>
      match Relation.ofJoin? name r.target join.listed with
      | some relation => noted found name relation
      | none => found

/-- **The relations that are derived for a class** under the names that are allowed, from what a
mapper tells of its relationships. -/
def derivedRelations (mapper : Relationship → Except Fault MappedJoin) (c : MappedClass)
    (allowed : List String) : Except Fault (List (String × Relation)) :=
  allowed.foldlM (noteRelation mapper c) []

theorem Mapping.relations_eq (m : Mapping) (c : MappedClass) (allowed : List String) :
    m.relations c allowed = derivedRelations (m.mappedJoin c) c allowed := by
  rw [relations, derivedRelations]
  refine congrArg (fun f => allowed.foldlM f []) (funext fun found => funext fun name => ?_)
  rw [noteRelation]
  cases c.relationships.find? fun r => r.name == name with
  | none => rfl
  | some r =>
    dsimp only
    rw [join_eq]
    cases m.mappedJoin c r <;> rfl

theorem Mapping.relations_of_entity {m : Mapping} {c : MappedClass} {spec : SearchSpec}
    {name : Option String} {e : Entity} (h : m.entity c spec name = .ok e) :
    m.relations c spec.allowedRelations = .ok e.relations := by
  unfold entity at h
  dsimp only at h
  split at h
  · obtain ⟨_, -, h⟩ := exists_of_bind_ok h
    obtain ⟨relations, hrelations, h⟩ := exists_of_bind_ok h
    cases h
    exact hrelations
  · obtain ⟨relations, hrelations, h⟩ := exists_of_bind_ok h
    cases h
    exact hrelations

/-- **An entity that is registered for a class has the relations that are derived for it.** -/
theorem MappedRegistry.derivedRelations_of_register {state : MappedRegistry} {m : Mapping}
    {className : String} {spec : SearchSpec} {name : Option String} {e : Entity}
    (h : (state.register m className spec name).1 = .ok e) :
    ∃ c, m.class? className = some c ∧
      derivedRelations (m.mappedJoin c) c spec.allowedRelations = .ok e.relations := by
  unfold register at h
  cases hclass : m.class? className with
  | none =>
    rw [hclass] at h
    cases h
  | some c =>
    rw [hclass] at h
    dsimp only at h
    split at h
    · cases h
    · cases hentity : m.entity c spec name with
      | error fault =>
        rw [hentity] at h
        cases h
      | ok entity =>
        rw [hentity] at h
        cases h
        exact ⟨c, rfl, (m.relations_eq c _).symm.trans (Mapping.relations_of_entity hentity)⟩

section Lookup

variable {mapper : Relationship → Except Fault MappedJoin} {c : MappedClass}

theorem lookup_noted (found : List (String × Relation)) (name : String) (relation : Relation)
    (n : String) : (noted found name relation).lookup n =
      (found.lookup n).or (if n = name then some relation else none) := by
  unfold noted
  split
  · rename_i hany
    by_cases hn : n = name
    · obtain ⟨e, he, hname⟩ := List.any_eq_true.mp hany
      have hsome : (found.lookup n).isSome = true :=
        List.lookup_isSome_iff.mpr ⟨e, he, by rw [hn, eq_of_beq hname]; exact BEq.rfl⟩
      obtain ⟨known, hknown⟩ := Option.isSome_iff_exists.mp hsome
      rw [hknown, Option.some_or]
    · rw [if_neg hn, Option.or_none]
  · rw [List.lookup_append, List.lookup_cons, List.lookup_nil]
    by_cases hn : n = name
    · rw [if_pos hn, beq_of_eq hn]
    · rw [if_neg hn, beq_false_of_ne hn]

/-- What is derived under a name. -/
def derivedRelation? (mapper : Relationship → Except Fault MappedJoin) (c : MappedClass)
    (name : String) : Option Relation :=
  match c.relationships.find? fun r => r.name == name with
  | none => none
  | some r =>
    match mapper r with
    | .error _ => none
    | .ok join => Relation.ofJoin? name r.target join.listed

/-- One more name gives its relation, and leaves all others. -/
theorem lookup_noteRelation {found found' : List (String × Relation)} {name : String}
    (h : noteRelation mapper c found name = .ok found') (n : String) :
    found'.lookup n =
      (found.lookup n).or (if n = name then derivedRelation? mapper c name else none) := by
  rw [noteRelation] at h
  rw [derivedRelation?]
  cases hr : c.relationships.find? fun r => r.name == name with
  | none =>
    rw [hr] at h
    cases h
    rw [ite_self, Option.or_none]
  | some r =>
    rw [hr] at h
    dsimp only at h ⊢
    cases hjoin : mapper r with
    | error fault =>
      rw [hjoin] at h
      cases h
    | ok join =>
      rw [hjoin] at h
      cases h
      dsimp only
      cases Relation.ofJoin? name r.target join.listed with
      | none => rw [ite_self, Option.or_none]
      | some relation => exact lookup_noted found name relation n

/-- **Under each name that is allowed stands what is derived under it.** -/
theorem lookup_derivedRelations {allowed : List String} {relations : List (String × Relation)}
    (h : derivedRelations mapper c allowed = .ok relations) {name : String}
    (hname : name ∈ allowed) : relations.lookup name = derivedRelation? mapper c name := by
  suffices hfrom : ∀ found, allowed.foldlM (noteRelation mapper c) found = .ok relations →
      relations.lookup name =
        (found.lookup name).or (if name ∈ allowed then derivedRelation? mapper c name else none) by
    rw [hfrom [] h, if_pos hname]
    rfl
  clear h hname
  induction allowed with
  | nil =>
    intro found h
    cases h
    rw [if_neg List.not_mem_nil, Option.or_none]
  | cons first rest ih =>
    intro found h
    obtain ⟨found', hfirst, hrest⟩ := exists_of_bind_ok h
    rw [ih found' hrest, lookup_noteRelation hfirst, Option.or_assoc]
    refine congrArg (Option.or _) ?_
    by_cases heq : name = first
    · subst heq
      rw [if_pos rfl, if_pos List.mem_cons_self]
      cases derivedRelation? mapper c name <;> simp
    · simp only [heq, if_false, Option.none_or, List.mem_cons, false_or]

end Lookup

/-! ### Derived relations join as the mapper does -/

namespace MappedJoin

/-- **A derived relation joins by the first pairs of the mapper's join.** The relations of an
entity that is registered for a class are derived from what its mapper tells of them. Under each
name that is allowed and that has a relationship stands a relation to the target of the
relationship. Its semi-joins can be written on all tables that have the columns of the join, and
are true of a row exactly when a row that agrees with it in the first pairs satisfies the group.
All rows that the mapper joins do so, and if there is one pair on each side there are no others. -/
theorem derived_joins :
    (∀ (state : MappedRegistry) (m : Mapping) (className : String) (spec : SearchSpec)
      (name : Option String) (e : Entity), (state.register m className spec name).1 = .ok e →
      ∃ c, m.class? className = some c ∧
        derivedRelations (m.mappedJoin c) c spec.allowedRelations = .ok e.relations) ∧
    ∀ (mapper : Relationship → Except Fault MappedJoin) (c : MappedClass) (allowed : List String)
      (relations : List (String × Relation)),
      derivedRelations mapper c allowed = .ok relations →
      ∀ name ∈ allowed, ∀ r, c.relationships.find? (fun r => r.name == name) = some r →
      ∀ join, mapper r = .ok join → join.StartsHome →
      ∃ relation, relations.lookup name = some relation ∧ relation.name = name ∧
        relation.target = r.target ∧
        ∀ (metadata : Metadata) (source : Sql.Source) (depth : Nat) (table : String)
          (target : TableDef) (g : Group), source.occurrence.Before depth →
          metadata.table table = .ok target → join.Fits metadata source.table target →
          Predicate.FitAll metadata g.members target →
          ∃ clause, clause? metadata source depth (g.related relation table) = .ok (some clause) ∧
            ∀ (db : DatabaseState) (frame : db.Frame),
              (db.truth clause frame = .yes ↔ (db.contents metadata).JoinsSome db.test join.first
                table g (frame source.occurrence)) ∧
              ((db.contents metadata).JoinsSome db.test join table g (frame source.occurrence) →
                db.truth clause frame = .yes) ∧
              (join.IsSingle → (db.truth clause frame = .yes ↔
                (db.contents metadata).JoinsSome db.test join table g
                  (frame source.occurrence))) := by
  refine ⟨fun _ _ _ _ _ _ h => MappedRegistry.derivedRelations_of_register h, ?_⟩
  intro mapper c allowed relations hrelations name hname r hr join hjoin hhome
  obtain ⟨relation, hrelation, hrelationName, htarget, hkept⟩ := exists_ofJoin? hhome name r.target
  have hlookup : relations.lookup name = some relation := by
    rw [lookup_derivedRelations hrelations hname, derivedRelation?, hr]
    dsimp only
    rw [hjoin]
    exact hrelation
  refine ⟨relation, hlookup, hrelationName, htarget, ?_⟩
  intro metadata source depth table target g hsource htable hfits hmembers
  obtain ⟨clause, hclause, htruth⟩ := hkept.exists_clause? hsource htable hfits hmembers
  refine ⟨clause, hclause, fun db frame => ⟨htruth db frame, ?_, fun hsingle => ?_⟩⟩
  · rintro ⟨other, hjoins, hsatisfies⟩
    exact (htruth db frame).mpr ⟨other, hjoins.first, hsatisfies⟩
  · have h := htruth db frame
    rwa [first_of_isSingle hsingle] at h

/-! ### Tagged posts -/

namespace Tagging

/-- Posts have tags, through a table that refers to both. -/
def post : MappedClass :=
  ⟨"Post", ⟨"posts", [⟨"id", "id", true, none⟩, ⟨"title", "title", false, none⟩]⟩,
    [⟨"tags", "Tag", some "post_tags", none⟩]⟩

def mapping : Mapping :=
  ⟨[⟨"post_tags", [⟨"post_id", "post_id", true, some ("posts", "id")⟩,
      ⟨"tag_id", "tag_id", true, some ("tags", "id")⟩]⟩],
    [post, ⟨"Tag", ⟨"tags", [⟨"id", "id", true, none⟩, ⟨"label", "label", false, none⟩]⟩, []⟩]⟩

def spec : SearchSpec := { SearchSpec.plain with allowedRelations := ["tags"] }

def posts : TableDef := ⟨none, "posts", ["id", "title"]⟩

def tags : TableDef := ⟨none, "tags", ["id", "label"]⟩

def tables : Metadata := ⟨[posts, tags, ⟨none, "post_tags", ["post_id", "tag_id"]⟩]⟩

/-- How posts and tags are joined. -/
def join : MappedJoin := .through "post_tags" [⟨"id", "post_id", false⟩] [⟨"id", "tag_id", false⟩]

/-- Tags of some label. -/
def labelled : Group := ⟨.and, [.condition ⟨"label", .equal, .str "sql"⟩]⟩

/-- What is registered for posts. -/
def entity : Entity :=
  ⟨"Post", "posts", spec, [("tags", ⟨"tags", "Tag", "id", "id",
    some ⟨"post_tags", "post_id", "tag_id"⟩⟩)]⟩

end Tagging

/-- The semi-join of the tags of posts is true of the posts that the mapper joins with such a
tag. -/
theorem derived_joins_tags :
    (MappedRegistry.empty.register Tagging.mapping "Post" Tagging.spec none).1 =
        .ok Tagging.entity ∧
      Tagging.join.StartsHome ∧ Tagging.join.IsSingle ∧
      Tagging.join.Fits Tagging.tables Tagging.posts Tagging.tags ∧
      ∃ relation clause, Tagging.entity.relations.lookup "tags" = some relation ∧
        clause? Tagging.tables ⟨.root, Tagging.posts⟩ 0 (Tagging.labelled.related relation "tags") =
          .ok (some clause) ∧
        ∀ (db : DatabaseState) (frame : db.Frame), db.truth clause frame = .yes ↔
          (db.contents Tagging.tables).JoinsSome db.test Tagging.join "tags" Tagging.labelled
            (frame .root) := by
  have hregister : (MappedRegistry.empty.register Tagging.mapping "Post" Tagging.spec none).1 =
      .ok Tagging.entity := rfl
  have hhome : Tagging.join.StartsHome := ⟨⟨_, rfl, rfl⟩, ⟨_, rfl, rfl⟩⟩
  have hfits : Tagging.join.Fits Tagging.tables Tagging.posts Tagging.tags :=
    ⟨_, rfl, by simp [Tagging.posts], by simp [Tagging.tags]⟩
  have hmembers : Predicate.FitAll Tagging.tables Tagging.labelled.members Tagging.tags :=
    ⟨⟨by simp [Tagging.tags], trivial⟩, trivial⟩
  have hroot : (Sql.Source.mk .root Tagging.posts).occurrence.Before 0 := trivial
  obtain ⟨c, hclass, hrelations⟩ := derived_joins.1 _ _ _ _ _ _ hregister
  cases hclass
  obtain ⟨relation, hlookup, -, -, hjoins⟩ := derived_joins.2 _ _ _ _ hrelations "tags"
    (by simp [Tagging.spec]) _ rfl Tagging.join rfl hhome
  obtain ⟨clause, hclause, htruth⟩ := hjoins Tagging.tables ⟨.root, Tagging.posts⟩ 0 "tags"
    Tagging.tags Tagging.labelled hroot rfl hfits hmembers
  exact ⟨hregister, hhome, ⟨rfl, rfl⟩, hfits, relation, clause, hlookup, hclause, fun db frame =>
    (htruth db frame).2.2 ⟨rfl, rfl⟩⟩

/-! ### Joins that do not start home, and joins of several pairs -/

namespace Tenants

/-- Items belong to an order of their tenant: two pairs of columns join them. -/
def join : MappedJoin := .direct [("tenant_id", "tenant_id"), ("order_id", "id")]

def item : MappedClass :=
  ⟨"Item", ⟨"items", [⟨"id", "id", true, none⟩, ⟨"tenant_id", "tenant_id", false, none⟩,
    ⟨"order_id", "order_id", false, none⟩]⟩, [⟨"order", "Order", none, none⟩]⟩

def items : TableDef := ⟨none, "items", ["id", "tenant_id", "order_id"]⟩

def orders : TableDef := ⟨none, "orders", ["tenant_id", "id"]⟩

def tables : Metadata := ⟨[items, orders]⟩

/-- The relation that is derived: it joins by the tenant alone. -/
def order : Relation := ⟨"order", "Order", "tenant_id", "tenant_id", none⟩

/-- An item of order 7 and an order 8, both of tenant 1. -/
def state : DatabaseState where
  Row := Bool
  Stored := Nat
  rows table row := row = (table.name == "orders")
  cell
    | false, "tenant_id" => some 1
    | false, "order_id" => some 7
    | true, "tenant_id" => some 1
    | true, "id" => some 8
    | _, _ => none
  equals _ _ := False
  like _ _ := False
  atLeast _ _ := False
  atMost _ _ := False
  same s t := s = t
  same_comm _ _ h := h.symm

end Tenants

namespace Blogs

/-- A post belongs to a blog, and a blog to a user: the post refers to the table that associates
it with its owner. -/
def mapping : Mapping :=
  ⟨[⟨"blogs", [⟨"id", "id", true, none⟩, ⟨"owner_id", "owner_id", false, some ("users", "id")⟩]⟩],
    [⟨"User", ⟨"users", [⟨"id", "id", true, none⟩]⟩, []⟩,
      ⟨"Post", ⟨"posts", [⟨"id", "id", true, none⟩,
        ⟨"blog_id", "blog_id", false, some ("blogs", "id")⟩]⟩,
        [⟨"owner", "User", some "blogs", none⟩]⟩]⟩

/-- The relation that is derived: the keys of the posts and of the blogs have changed places. -/
def owner : Relation := ⟨"owner", "User", "id", "id", some ⟨"blogs", "blog_id", "owner_id"⟩⟩

def posts : TableDef := ⟨none, "posts", ["id", "blog_id"]⟩

def tables : Metadata := ⟨[⟨none, "users", ["id"]⟩, posts, ⟨none, "blogs", ["id", "owner_id"]⟩]⟩

def spec : SearchSpec := { SearchSpec.plain with allowedRelations := ["owner"] }

end Blogs

/-- An item is in no order of its tenant, and yet the semi-join of the derived relation is true of
it. Where posts refer to the association table, the semi-join cannot even be written. -/
theorem derived_not_joined :
    (derivedRelations (fun _ => .ok Tenants.join) Tenants.item ["order"] =
        .ok [("order", Tenants.order)] ∧
      ∃ clause, clause? Tenants.tables ⟨.root, Tenants.items⟩ 0
          (Group.empty.related Tenants.order "orders") = .ok (some clause) ∧
        Tenants.state.truth clause (fun _ => false) = .yes ∧
        ¬∃ other, (Tenants.state.contents Tenants.tables).Joins Tenants.join "orders" false other) ∧
    ((MappedRegistry.empty.register Blogs.mapping "Post" Blogs.spec none).1 =
        .ok ⟨"Post", "posts", Blogs.spec, [("owner", Blogs.owner)]⟩ ∧
      clause? Blogs.tables ⟨.root, Blogs.posts⟩ 0 (Group.empty.related Blogs.owner "users") =
        .error (.fault .missingKey)) := by
  have htable : Tenants.tables.table "orders" = .ok Tenants.orders := rfl
  have hkept : KeptBy Tenants.order Tenants.join := .direct rfl
  have hroot : (Sql.Source.mk .root Tenants.items).occurrence.Before 0 := trivial
  have hfits : Tenants.join.Fits Tenants.tables Tenants.items Tenants.orders := by
    simp [Fits, Tenants.join, Tenants.items, Tenants.orders]
  obtain ⟨clause, hclause, htruth⟩ := hkept.exists_clause? hroot htable hfits
    (g := Group.empty) trivial
  refine ⟨⟨rfl, clause, hclause, (htruth _ _).mpr ?_, ?_⟩, rfl, rfl⟩
  · exact ⟨true, ⟨⟨Tenants.orders, htable, rfl⟩, by
      simp [first, Tenants.join, DatabaseState.sameKey, Tenants.state]⟩, trivial⟩
  · rintro ⟨other, ⟨table, hname, hrow⟩, hpairs⟩
    rw [htable] at hname
    cases hname
    cases hrow
    obtain ⟨s, t, hs, ht, hsame⟩ := hpairs ("order_id", "id") (by simp)
    cases hs
    cases ht
    cases hsame

end MappedJoin

end RelationalSearch
