import Mathlib.Tactic.Common
import RelationalSearch.Predicate.Text

/-!
# Reading the text of a predicate

The text of a predicate is made of signs (`RelationalSearch.PredicateSign`): what its
comparisons and semi-joins are written as, each a whole, and `TRUE`, connectives and
parentheses between them. Someone who reads it from left to right keeps, for every
parenthesis that is open, whether one of the alternatives read so far holds and whether the
current one does (`RelationalSearch.ReadingLevel`): what is joined by `AND` belongs to the
current alternative, and `OR` begins another one. That is all there is to the usual
precedence, for which `AND` binds tighter than `OR`: of operands joined by both, the reading
is the disjunction of conjunctions (`RelationalSearch.PredicateReading.readsAs_alternatives`).

Read like this, the text of a predicate says what the predicate says
(`RelationalSearch.Predicate.read?_symbols`), where groups without members are true. A group of
several members is an operand in its parentheses only; a group of one member is written as
this member and is an operand if the member is.
-/

namespace RelationalSearch

/-! ### Signs -/

/-- **A sign of the text of a predicate.** -/
inductive PredicateSign where
  /-- What a comparison or a semi-join is written as. -/
  | leaf (p : Predicate)
  /-- `TRUE`. -/
  | always
  /-- The word of a connective, between blanks. -/
  | joint (connective : Connective)
  | opening
  | closing

namespace PredicateSign

/-- How a sign is written. -/
def render : PredicateSign → Except Fault String
  | leaf p => p.render
  | always => .ok "TRUE"
  | joint connective => .ok (" " ++ connective.word ++ " ")
  | opening => .ok "("
  | closing => .ok ")"

/-- **What signs are written as**, one after the other. -/
def spelled : List PredicateSign → Except Fault String
  | [] => .ok ""
  | s :: rest => do
    let text ← s.render
    let texts ← spelled rest
    return text ++ texts

/-- Operands with a connective between them; without operands, `TRUE`. -/
def joined (connective : Connective) : List (List PredicateSign) → List PredicateSign
  | [] => [always]
  | operands => [joint connective].intercalate operands

end PredicateSign

namespace Predicate

mutual

/-- **The signs of a predicate.** -/
def signs : Predicate → List PredicateSign
  | condition c => [.leaf (condition c)]
  | group connective members => PredicateSign.joined connective (operandsOf members)
  | related relation table connective members => [.leaf (related relation table connective members)]

/-- The members of a group as operands. -/
def operandsOf : List Predicate → List (List PredicateSign)
  | [] => []
  | p :: rest =>
    (if p.needsParentheses then .opening :: (signs p ++ [.closing]) else signs p) :: operandsOf rest

end

/-- A predicate as an operand: in parentheses if it is a group of several members. -/
def operand (p : Predicate) : List PredicateSign :=
  if p.needsParentheses then .opening :: (p.signs ++ [.closing]) else p.signs

end Predicate

/-! ### The text is what the signs are written as -/

namespace PredicateSign

theorem spelled_append (before after : List PredicateSign) :
    spelled (before ++ after) = (do return (← spelled before) ++ (← spelled after)) := by
  induction before with
  | nil =>
    cases h : spelled after <;> simp [spelled, h, bind, Except.bind, pure, Except.pure]
  | cons s rest ih =>
    rw [List.cons_append, spelled, ih, spelled]
    cases s.render with
    | error fault => rfl
    | ok text =>
      cases spelled rest with
      | error fault => rfl
      | ok texts =>
        cases spelled after with
        | error fault => rfl
        | ok more => exact congrArg Except.ok String.append_assoc.symm

theorem spelled_singleton (s : PredicateSign) : spelled [s] = s.render := by
  rw [spelled]
  cases s.render with
  | error fault => rfl
  | ok text => exact congrArg Except.ok String.append_empty

theorem joined_cons (connective : Connective) (first : List PredicateSign)
    (rest : List (List PredicateSign)) :
    joined connective (first :: rest) = [joint connective].intercalate (first :: rest) := rfl

/-- Operands with a connective between them are written with its word between them. -/
theorem spelled_joined (connective : Connective) (operands : List (List PredicateSign)) :
    spelled (joined connective operands) =
      (do return renderedGroup connective (← operands.mapM spelled)) := by
  match operands with
  | [] => rfl
  | first :: rest =>
    have hsome : ∀ texts : List String, texts ≠ [] →
        renderedGroup connective texts = (" " ++ connective.word ++ " ").intercalate texts := by
      intro texts htexts
      rw [renderedGroup, if_neg (by simpa using htexts)]
    induction rest generalizing first with
    | nil =>
      rw [joined_cons, List.intercalate_singleton, List.mapM_cons, List.mapM_nil]
      cases spelled first with
      | error fault => rfl
      | ok text => exact congrArg Except.ok (hsome [text] (by simp)).symm
    | cons second rest ih =>
      have ih := ih second
      rw [joined_cons] at ih ⊢
      rw [List.intercalate_cons_cons, List.append_assoc, spelled_append, spelled_append, ih,
        spelled_singleton]
      simp only [List.mapM_cons]
      cases spelled first with
      | error fault => rfl
      | ok text =>
        cases spelled second with
        | error fault => rfl
        | ok text' =>
          cases rest.mapM spelled with
          | error fault => rfl
          | ok texts =>
            refine congrArg Except.ok ?_
            rw [hsome _ (by simp), hsome _ (by simp), String.intercalate_cons_cons]
            simp only [String.append_assoc]

end PredicateSign

namespace Predicate

mutual

/-- **A predicate is written as its signs are.** -/
theorem render_eq_spelled : ∀ p : Predicate, p.render = PredicateSign.spelled p.signs
  | .condition c => (PredicateSign.spelled_singleton (.leaf (.condition c))).symm
  | .related relation table connective members =>
    (PredicateSign.spelled_singleton (.leaf (.related relation table connective members))).symm
  | .group connective members => by
    rw [signs, PredicateSign.spelled_joined, ← renderMembers_eq_spelled members, render]

theorem renderMembers_eq_spelled :
    ∀ ps : List Predicate, renderMembers ps = (operandsOf ps).mapM PredicateSign.spelled
  | [] => rfl
  | p :: rest => by
    rw [renderMembers, operandsOf, List.mapM_cons, renderMembers_eq_spelled rest,
      render_eq_spelled p]
    cases p.needsParentheses with
    | false =>
      rw [if_neg (by decide)]
      cases PredicateSign.spelled p.signs <;> rfl
    | true =>
      have hparens : PredicateSign.spelled (.opening :: (p.signs ++ [.closing])) =
          (do return "(" ++ (← PredicateSign.spelled p.signs) ++ ")") := by
        rw [PredicateSign.spelled, PredicateSign.spelled_append, PredicateSign.spelled_singleton]
        cases PredicateSign.spelled p.signs with
        | error fault => rfl
        | ok text => exact congrArg Except.ok String.append_assoc.symm
      rw [if_pos rfl, hparens]
      cases PredicateSign.spelled p.signs <;> rfl

end

end Predicate

/-! ### Reading -/

/-- **What has been read inside a parenthesis**, or outside of all. -/
structure ReadingLevel where
  /-- Whether one of the alternatives before the current one holds. -/
  earlier : Bool
  /-- Whether all that has been read of the current alternative holds. -/
  current : Bool
  deriving DecidableEq, Repr

namespace ReadingLevel

/-- Nothing has been read. -/
def start : ReadingLevel := ⟨false, true⟩

/-- Whether one of the alternatives holds. -/
def value (l : ReadingLevel) : Bool := l.earlier || l.current

end ReadingLevel

/-- **The state of someone who reads signs.** -/
structure PredicateReading where
  level : ReadingLevel
  /-- What stands before the parentheses that are open, innermost first. -/
  outer : List ReadingLevel
  /-- Whether an operand comes next, and not a connective or a closing parenthesis. -/
  awaits : Bool
  deriving DecidableEq, Repr

namespace PredicateReading

/-- Nothing has been read. -/
def start : PredicateReading := ⟨ReadingLevel.start, [], true⟩

/-- An operand has been read: it belongs to the current alternative. -/
def take (r : PredicateReading) (value : Bool) : PredicateReading :=
  ⟨⟨r.level.earlier, r.level.current && value⟩, r.outer, false⟩

/-- Reads a sign, where `holds` says which comparisons and semi-joins hold. -/
def next? (holds : Predicate → Bool) (r : PredicateReading) :
    PredicateSign → Option PredicateReading
  | .leaf p => if r.awaits then some (r.take (holds p)) else none
  | .always => if r.awaits then some (r.take true) else none
  | .opening => if r.awaits then some ⟨ReadingLevel.start, r.level :: r.outer, true⟩ else none
  | .joint .and => if r.awaits then none else some { r with awaits := true }
  | .joint .or => if r.awaits then none else some ⟨⟨r.level.value, true⟩, r.outer, true⟩
  | .closing =>
    match r.awaits, r.outer with
    | false, level :: outer => some (PredicateReading.take ⟨level, outer, true⟩ r.level.value)
    | _, _ => none

/-- Reads signs one after the other. -/
def readAll? (holds : Predicate → Bool) (signs : List PredicateSign) (r : PredicateReading) :
    Option PredicateReading :=
  signs.foldlM (next? holds) r

/-- **What signs say**, if they are a whole text. -/
def read? (holds : Predicate → Bool) (signs : List PredicateSign) : Option Bool :=
  (readAll? holds signs start).bind fun r =>
    if r.awaits || !r.outer.isEmpty then none else some r.level.value

variable {holds : Predicate → Bool}

theorem readAll?_append (before after : List PredicateSign) (r : PredicateReading) :
    readAll? holds (before ++ after) r = (readAll? holds before r).bind (readAll? holds after) := by
  rw [readAll?, List.foldlM_append]
  rfl

/-- Signs are read as an operand of some value, wherever one comes next. -/
def ReadsAsOperand (holds : Predicate → Bool) (signs : List PredicateSign) (value : Bool) : Prop :=
  ∀ level outer, readAll? holds signs ⟨level, outer, true⟩ = some (take ⟨level, outer, true⟩ value)

/-- Signs are read as a whole of some value, inside any parentheses. -/
def ReadsAs (holds : Predicate → Bool) (signs : List PredicateSign) (value : Bool) : Prop :=
  ∀ outer, ∃ level, readAll? holds signs ⟨ReadingLevel.start, outer, true⟩ =
    some ⟨level, outer, false⟩ ∧ level.value = value

section Operands

variable {signs : List PredicateSign} {value : Bool}

theorem readsAsOperand_leaf (p : Predicate) : ReadsAsOperand holds [.leaf p] (holds p) :=
  fun _ _ => rfl

theorem readsAsOperand_always : ReadsAsOperand holds [.always] true := fun _ _ => rfl

theorem ReadsAsOperand.readsAs (h : ReadsAsOperand holds signs value) :
    ReadsAs holds signs value := fun outer =>
  ⟨_, h ReadingLevel.start outer, rfl⟩

/-- What is a whole becomes an operand in parentheses. -/
theorem ReadsAs.parenthesized (h : ReadsAs holds signs value) :
    ReadsAsOperand holds (.opening :: (signs ++ [.closing])) value := by
  intro level outer
  obtain ⟨inside, hread, rfl⟩ := h (level :: outer)
  have hopen : readAll? holds (.opening :: (signs ++ [.closing])) ⟨level, outer, true⟩ =
      readAll? holds (signs ++ [.closing]) ⟨ReadingLevel.start, level :: outer, true⟩ := rfl
  rw [hopen, readAll?_append, hread]
  rfl

theorem ReadsAs.read? (h : ReadsAs holds signs value) : read? holds signs = some value := by
  obtain ⟨level, hread, rfl⟩ := h []
  rw [PredicateReading.read?, start, hread]
  rfl

end Operands

/-! ### The usual precedence -/

/-- Operands joined by `AND` all belong to the current alternative. -/
theorem readsAsOperand_factors {first : List PredicateSign} {rest : List (List PredicateSign)}
    {value : Bool} {values : List Bool} (hfirst : ReadsAsOperand holds first value)
    (hrest : List.Forall₂ (ReadsAsOperand holds) rest values) :
    ReadsAsOperand holds ([.joint .and].intercalate (first :: rest)) (value && values.all id) := by
  induction hrest generalizing first value with
  | nil =>
    rw [List.intercalate_singleton, List.all_nil, Bool.and_true]
    exact hfirst
  | cons hsecond _ ih =>
    intro level outer
    rw [List.intercalate_cons_cons, List.append_assoc, readAll?_append, hfirst, Option.bind_some,
      readAll?_append]
    refine (ih hsecond _ _).trans ?_
    simp only [take, Bool.and_assoc, List.all_cons, id_eq]

/-- Of what is joined by `OR`, each is an alternative of its own. -/
theorem readsAs_alternatives {first : List PredicateSign} {rest : List (List PredicateSign)}
    {value : Bool} {values : List Bool} (hfirst : ReadsAsOperand holds first value)
    (hrest : List.Forall₂ (ReadsAsOperand holds) rest values) :
    ReadsAs holds ([.joint .or].intercalate (first :: rest)) (value || values.any id) := by
  intro outer
  -- What has been read before an alternative is carried along.
  suffices hfrom : ∀ earlier, ∃ level,
      readAll? holds ([.joint .or].intercalate (first :: rest)) ⟨⟨earlier, true⟩, outer, true⟩ =
        some ⟨level, outer, false⟩ ∧ level.value = (earlier || (value || values.any id)) from
    hfrom false
  induction hrest generalizing first value with
  | nil =>
    intro earlier
    rw [List.intercalate_singleton, List.any_nil, Bool.or_false]
    exact ⟨_, hfirst _ _, rfl⟩
  | @cons second value' _ _ hsecond _ ih =>
    intro earlier
    obtain ⟨level, hread, hvalue⟩ := ih hsecond (earlier || value)
    refine ⟨level, ?_, ?_⟩
    · rw [List.intercalate_cons_cons, List.append_assoc, readAll?_append, hfirst,
        Option.bind_some, readAll?_append]
      exact hread
    · rw [hvalue, List.any_cons, Bool.or_assoc]
      rfl

/-- `AND` binds tighter than `OR`. -/
example (a b c : Predicate) :
    read? holds [.leaf a, .joint .or, .leaf b, .joint .and, .leaf c] =
      some (holds a || (holds b && holds c)) := rfl

end PredicateReading

/-! ### What a predicate says -/

/-- The value of a group by those of its members; a group without members is true. -/
def Connective.value : Connective → List Bool → Bool
  | .and, values => values.all id
  | .or, values => values.isEmpty || values.any id

namespace Predicate

mutual

/-- **What a predicate says**, where `holds` says which comparisons and semi-joins hold. -/
def value (holds : Predicate → Bool) : Predicate → Bool
  | condition c => holds (condition c)
  | group connective members => connective.value (valuesOf holds members)
  | related relation table connective members => holds (related relation table connective members)

/-- What several predicates say. -/
def valuesOf (holds : Predicate → Bool) : List Predicate → List Bool
  | [] => []
  | p :: rest => value holds p :: valuesOf holds rest

end

open PredicateReading

variable {holds : Predicate → Bool}

/-- Operands with a connective between them are read as a group is meant. -/
theorem readsAs_joined (connective : Connective) {operands : List (List PredicateSign)}
    {values : List Bool} (h : List.Forall₂ (ReadsAsOperand holds) operands values) :
    ReadsAs holds (PredicateSign.joined connective operands) (connective.value values) := by
  cases h with
  | nil => cases connective <;> exact readsAsOperand_always.readsAs
  | cons hfirst hrest =>
    cases connective with
    | and => exact (readsAsOperand_factors hfirst hrest).readsAs
    | or => exact readsAs_alternatives hfirst hrest

/-- A group is read as an operand where it is a member: it says `TRUE`, is its only member, or
stands in parentheses. -/
theorem readsAsOperand_group (connective : Connective) {members : List Predicate}
    (h : List.Forall₂ (ReadsAsOperand holds) (operandsOf members) (valuesOf holds members)) :
    ReadsAsOperand holds (operand (.group connective members))
      ((group connective members).value holds) := by
  match members with
  | [] => cases connective <;> exact readsAsOperand_always
  | [q] =>
    have hvalue : connective.value [q.value holds] = q.value holds := by
      cases connective <;> simp [Connective.value]
    have hoperand : operand (.group connective [q]) = operand q := by
      rw [operand, if_neg (by simp [needsParentheses]), signs, operandsOf, operandsOf,
        PredicateSign.joined_cons, List.intercalate_singleton, operand]
    rw [value, valuesOf, valuesOf, hvalue, hoperand]
    exact (List.forall₂_cons.mp h).1
  | q :: r :: rest => exact (readsAs_joined connective h).parenthesized

mutual

/-- A predicate is read as an operand where it is a member of a group. -/
theorem readsAsOperand_operand : ∀ p : Predicate, ReadsAsOperand holds p.operand (p.value holds)
  | .condition c => readsAsOperand_leaf (.condition c)
  | .related relation table connective members =>
    readsAsOperand_leaf (.related relation table connective members)
  | .group connective members => readsAsOperand_group connective (readsAsOperand_members members)

theorem readsAsOperand_members :
    ∀ ps : List Predicate, List.Forall₂ (ReadsAsOperand holds) (operandsOf ps) (valuesOf holds ps)
  | [] => .nil
  | p :: rest => .cons (readsAsOperand_operand p) (readsAsOperand_members rest)

end

/-- **The signs of a predicate are read as it is meant.** -/
theorem readsAs_signs (p : Predicate) : ReadsAs holds p.signs (p.value holds) := by
  match p with
  | .condition c => exact (readsAsOperand_leaf (.condition c)).readsAs
  | .related relation table connective members =>
    exact (readsAsOperand_leaf (.related relation table connective members)).readsAs
  | .group connective members => exact readsAs_joined connective (readsAsOperand_members members)

end Predicate

/-! ### From characters to signs

The signs are themselves read off the text: off its characters, with what comparisons and
semi-joins are written as taken for one symbol each. -/

/-- **A symbol of the text of a predicate.** -/
inductive PredicateSymbol where
  /-- A character. -/
  | char (c : Char)
  /-- What a comparison or a semi-join is written as. -/
  | leaf (p : Predicate)

namespace PredicateSymbol

/-- **The text of symbols.** -/
def text : List PredicateSymbol → Except Fault String
  | [] => .ok ""
  | char c :: rest => do return String.singleton c ++ (← text rest)
  | leaf p :: rest => do return (← p.render) ++ (← text rest)

/-- The characters of a text as symbols. -/
def ofText (s : String) : List PredicateSymbol := s.toList.map char

/-- **The signs that symbols make up**, if they do. -/
def signs? : List PredicateSymbol → Option (List PredicateSign)
  | [] => some []
  | leaf p :: rest => (signs? rest).map (.leaf p :: ·)
  | char '(' :: rest => (signs? rest).map (.opening :: ·)
  | char ')' :: rest => (signs? rest).map (.closing :: ·)
  | char ' ' :: char 'A' :: char 'N' :: char 'D' :: char ' ' :: rest =>
    (signs? rest).map (.joint .and :: ·)
  | char ' ' :: char 'O' :: char 'R' :: char ' ' :: rest => (signs? rest).map (.joint .or :: ·)
  | char 'T' :: char 'R' :: char 'U' :: char 'E' :: rest => (signs? rest).map (.always :: ·)
  | _ => none

/-- **What symbols say**, if they are a whole text. -/
def read? (holds : Predicate → Bool) (symbols : List PredicateSymbol) : Option Bool :=
  (signs? symbols).bind (PredicateReading.read? holds)

theorem text_ofText_append (s : String) (rest : List PredicateSymbol) :
    text (ofText s ++ rest) = (do return s ++ (← text rest)) := by
  suffices hchars : ∀ cs : List Char,
      text (cs.map char ++ rest) = (do return String.ofList cs ++ (← text rest)) by
    have htext := hchars s.toList
    rwa [String.ofList_toList] at htext
  intro cs
  induction cs with
  | nil =>
    cases htext : text rest with
    | error fault => exact htext
    | ok after => exact htext.trans (congrArg Except.ok String.empty_append.symm)
  | cons c cs ih =>
    rw [List.map_cons, List.cons_append, text, ih]
    cases text rest with
    | error fault => rfl
    | ok after =>
      refine congrArg Except.ok ?_
      rw [← String.append_assoc, ← String.toList_inj]
      simp

end PredicateSymbol

/-- The symbols of a sign. -/
def PredicateSign.symbols : PredicateSign → List PredicateSymbol
  | leaf p => [.leaf p]
  | always => PredicateSymbol.ofText "TRUE"
  | joint connective => PredicateSymbol.ofText (" " ++ connective.word ++ " ")
  | opening => PredicateSymbol.ofText "("
  | closing => PredicateSymbol.ofText ")"

namespace PredicateSymbol

theorem text_symbols_append (s : PredicateSign) (rest : List PredicateSymbol) :
    text (s.symbols ++ rest) = (do return (← s.render) ++ (← text rest)) := by
  cases s with
  | leaf p => rfl
  | always => exact text_ofText_append _ _
  | joint connective => exact text_ofText_append _ _
  | opening => exact text_ofText_append _ _
  | closing => exact text_ofText_append _ _

/-- The symbols of signs are written as the signs are. -/
theorem text_flatMap_symbols (signs : List PredicateSign) :
    text (signs.flatMap PredicateSign.symbols) = PredicateSign.spelled signs := by
  induction signs with
  | nil => rfl
  | cons s rest ih => rw [List.flatMap_cons, text_symbols_append, ih, PredicateSign.spelled]

/-- The symbols of signs make up these signs. -/
theorem signs?_flatMap_symbols (signs : List PredicateSign) :
    signs? (signs.flatMap PredicateSign.symbols) = some signs := by
  induction signs with
  | nil => rfl
  | cons s rest ih =>
    have hfirst : ∀ after, signs? (s.symbols ++ after) = (signs? after).map (s :: ·) := by
      intro after
      cases s with
      | joint connective => cases connective <;> rfl
      | _ => rfl
    rw [List.flatMap_cons, hfirst, ih]
    rfl

end PredicateSymbol

namespace Predicate

/-- **The symbols of a predicate's text.** -/
def symbols (p : Predicate) : List PredicateSymbol := p.signs.flatMap PredicateSign.symbols

/-- The text of a predicate is that of its symbols. -/
theorem text_symbols (p : Predicate) : PredicateSymbol.text p.symbols = p.render :=
  (PredicateSymbol.text_flatMap_symbols p.signs).trans p.render_eq_spelled.symm

/-- **Read back, the text of a predicate says what the predicate says.** -/
theorem read?_symbols (holds : Predicate → Bool) (p : Predicate) :
    PredicateSymbol.read? holds p.symbols = some (p.value holds) := by
  rw [PredicateSymbol.read?, symbols, PredicateSymbol.signs?_flatMap_symbols]
  exact (readsAs_signs p).read?

end Predicate

end RelationalSearch
