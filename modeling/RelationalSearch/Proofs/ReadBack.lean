import Mathlib.Data.List.Basic
import Mathlib.Tactic.Common
import RelationalSearch.Proofs.Connectives

/-!
# Quoted texts inside a predicate's text

A text that a comparison speaks of stands in quotes, and can hold quotes itself. As an
operand, or as one of several values, it stands in single quotes, and those inside are
doubled; inside a list or a table it is written as there, with a backslash before what would
end it. Someone who reads a comparison from left to right (`RelationalSearch.Text.pieces?`)
keeps nothing but whether a quoted text is open, and what of it has been read. A quote that
ends a text by the first convention is known by what comes after it, so a text is closed one
character later.

The main statement is `RelationalSearch.Predicate.render_readsBack`. The text of a predicate,
read with the usual precedence, says what the predicate says, what stands inside a semi-join
is the text of its group, and the quoted texts that are found in a comparison are those that
it speaks of, one after the other and each to its end.
-/

namespace RelationalSearch

namespace Text

/-! ### Quotes -/

/-- Whether a character can begin a quoted text. -/
def isQuote (c : Char) : Bool := c == singleQuote || c == doubleQuote

/-- How a quote inside a quoted text is told from the one that ends it. -/
inductive QuoteStyle where
  /-- Single quotes, which are doubled inside. -/
  | doubled
  /-- Quotes of both kinds, with a backslash before one inside. -/
  | escaped
  deriving DecidableEq, Repr

namespace QuoteStyle

/-- Whether a character begins a quoted text. -/
def opens : QuoteStyle → Char → Bool
  | doubled, c => c == singleQuote
  | escaped, c => isQuote c

/-- How a text is written in quotes. -/
def written : QuoteStyle → String → String
  | doubled, s => sqlLiteral s
  | escaped, s => quoted s

theorem opens_of_not_isQuote {c : Char} (h : isQuote c = false) (style : QuoteStyle) :
    style.opens c = false := by
  cases style with
  | doubled => exact (Bool.or_eq_false_iff.mp h).1
  | escaped => exact h

end QuoteStyle

/-! ### Reading quoted texts -/

/-- A piece of a text. -/
inductive TextPiece where
  /-- A character outside quotes. -/
  | char (c : Char)
  /-- A quoted text with its quotes. -/
  | quotation (span : List Char)
  deriving DecidableEq, Repr

namespace TextPiece

/-- The characters of a piece. -/
def chars : TextPiece → List Char
  | char c => [c]
  | quotation span => span

/-- A quoted text, if the piece is one. -/
def quotation? : TextPiece → Option (List Char)
  | char _ => none
  | quotation span => some span

end TextPiece

/-- **The state of someone who reads a text with quotes.** -/
inductive QuoteReading where
  | outside
  /-- Inside a quoted text, with its quote and what has been read of it. -/
  | inside (quote : Char) (span : List Char)
  /-- Inside, after a quote that may be the last one, or after a backslash. -/
  | paused (quote : Char) (span : List Char)
  deriving DecidableEq, Repr

namespace QuoteReading

/-- What has been read of the quoted text that is open. -/
def pending : QuoteReading → List Char
  | outside => []
  | inside _ span => span
  | paused _ span => span

/-- Reads a character outside quotes. -/
def begun (style : QuoteStyle) (c : Char) : List TextPiece × QuoteReading :=
  if style.opens c then ([], inside c [c]) else ([.char c], outside)

/-- Reads a character. -/
def next : QuoteStyle → QuoteReading → Char → List TextPiece × QuoteReading
  | style, outside, c => begun style c
  | .doubled, inside quote span, c =>
    if c = quote then ([], paused quote (span ++ [c])) else ([], inside quote (span ++ [c]))
  | .doubled, paused quote span, c =>
    if c = quote then ([], inside quote (span ++ [c]))
    else (.quotation span :: (begun .doubled c).1, (begun .doubled c).2)
  | .escaped, inside quote span, c =>
    if c = quote then ([.quotation (span ++ [c])], outside)
    else if c = '\\' then ([], paused quote (span ++ [c]))
    else ([], inside quote (span ++ [c]))
  | .escaped, paused quote span, c => ([], inside quote (span ++ [c]))

/-- What is left when the text is over: nothing, or a quoted text whose last quote was the
end of the text; a quoted text must not be open. -/
def finish? : QuoteStyle → QuoteReading → Option (List TextPiece)
  | _, outside => some []
  | .doubled, paused _ span => some [.quotation span]
  | _, _ => none

end QuoteReading

open QuoteReading

/-- **The pieces of a text**, if all its quoted texts end. -/
def pieces? (style : QuoteStyle) (state : QuoteReading) : List Char → Option (List TextPiece)
  | [] => finish? style state
  | c :: rest =>
    (pieces? style (next style state c).2 rest).map ((next style state c).1 ++ ·)

section Next

variable {style : QuoteStyle} {quote c : Char} {span : List Char}

theorem next_outside_of_opens (h : style.opens c = true) :
    next style outside c = ([], inside c [c]) := by
  cases style <;> exact if_pos h

theorem next_outside_of_not_opens (h : style.opens c = false) :
    next style outside c = ([.char c], outside) := by
  cases style <;> exact if_neg (by rw [h]; decide)

theorem next_doubled_inside_quote :
    next .doubled (inside quote span) quote = ([], paused quote (span ++ [quote])) := if_pos rfl

theorem next_doubled_inside_of_ne (h : c ≠ quote) :
    next .doubled (inside quote span) c = ([], inside quote (span ++ [c])) := if_neg h

theorem next_doubled_paused_quote :
    next .doubled (paused quote span) quote = ([], inside quote (span ++ [quote])) := if_pos rfl

theorem next_doubled_paused_of_ne (h : c ≠ quote) :
    next .doubled (paused quote span) c =
      (.quotation span :: (begun .doubled c).1, (begun .doubled c).2) := if_neg h

theorem next_escaped_inside_quote :
    next .escaped (inside quote span) quote = ([.quotation (span ++ [quote])], outside) :=
  if_pos rfl

theorem next_escaped_inside_backslash (h : '\\' ≠ quote) :
    next .escaped (inside quote span) '\\' = ([], paused quote (span ++ ['\\'])) :=
  (if_neg h).trans (if_pos rfl)

theorem next_escaped_inside_of_ne (h : c ≠ quote) (hslash : c ≠ '\\') :
    next .escaped (inside quote span) c = ([], inside quote (span ++ [c])) :=
  (if_neg h).trans (if_neg hslash)

end Next

/-- Nothing is lost on the way from one state to the next. -/
theorem flatMap_chars_next (style : QuoteStyle) (state : QuoteReading) (c : Char) :
    (next style state c).1.flatMap TextPiece.chars ++ (next style state c).2.pending =
      state.pending ++ [c] := by
  have hbegun : (begun style c).1.flatMap TextPiece.chars ++ (begun style c).2.pending = [c] := by
    unfold begun
    split <;> rfl
  match style, state with
  | .doubled, outside => exact hbegun
  | .escaped, outside => exact hbegun
  | .doubled, inside quote span =>
    by_cases hc : c = quote
    · subst hc
      rw [next_doubled_inside_quote]
      rfl
    · rw [next_doubled_inside_of_ne hc]
      rfl
  | .doubled, paused quote span =>
    by_cases hc : c = quote
    · subst hc
      rw [next_doubled_paused_quote]
      rfl
    · rw [next_doubled_paused_of_ne hc, List.flatMap_cons, List.append_assoc, hbegun]
      rfl
  | .escaped, inside quote span =>
    by_cases hc : c = quote
    · subst hc
      rw [next_escaped_inside_quote, List.flatMap_singleton]
      exact List.append_nil _
    · by_cases hslash : c = '\\'
      · subst hslash
        rw [next_escaped_inside_backslash hc]
        rfl
      · rw [next_escaped_inside_of_ne hc hslash]
        rfl
  | .escaped, paused quote span => rfl

/-- What is left makes up what has been read of the quoted text that is open. -/
theorem flatMap_chars_finish? {style : QuoteStyle} {state : QuoteReading}
    {pieces : List TextPiece} (h : finish? style state = some pieces) :
    pieces.flatMap TextPiece.chars = state.pending := by
  cases state with
  | outside =>
    cases style <;> cases h <;> rfl
  | inside quote span => cases style <;> cases h
  | paused quote span =>
    cases style with
    | doubled =>
      cases h
      exact List.append_nil span
    | escaped => cases h

/-- **The pieces of a text make up the text.** -/
theorem flatMap_chars_pieces? {style : QuoteStyle} {state : QuoteReading} {cs : List Char}
    {pieces : List TextPiece} (h : pieces? style state cs = some pieces) :
    pieces.flatMap TextPiece.chars = state.pending ++ cs := by
  induction cs generalizing state pieces with
  | nil => rw [flatMap_chars_finish? h, List.append_nil]
  | cons c rest ih =>
    obtain ⟨later, hlater, rfl⟩ := Option.map_eq_some_iff.mp h
    rw [List.flatMap_append, ih hlater, ← List.append_assoc, flatMap_chars_next,
      List.append_assoc, List.singleton_append]

/-! ### Quoted texts are read to their ends -/

section Ends

variable {style : QuoteStyle} {quote : Char} {cs rest : List Char}

/-- Characters outside quotes that begin no quoted text. -/
theorem pieces?_plain (h : ∀ c ∈ cs, isQuote c = false) (rest : List Char) :
    pieces? style outside (cs ++ rest) =
      (pieces? style outside rest).map (cs.map TextPiece.char ++ ·) := by
  induction cs with
  | nil => exact (Option.map_id' ..).symm
  | cons c cs ih =>
    rw [List.cons_append, pieces?, next_outside_of_not_opens
      (QuoteStyle.opens_of_not_isQuote (h c List.mem_cons_self) style),
      ih fun x hx => h x (List.mem_cons_of_mem _ hx), Option.map_map]
    rfl

/-- Characters inside a quoted text that do not end it. -/
def StaysInside (style : QuoteStyle) (quote : Char) (cs : List Char) : Prop :=
  ∀ span rest, pieces? style (inside quote span) (cs ++ rest) =
    pieces? style (inside quote (span ++ cs)) rest

theorem staysInside_flatMap {f : Char → List Char} (h : ∀ c, StaysInside style quote (f c))
    (cs : List Char) : StaysInside style quote (cs.flatMap f) := by
  intro span rest
  induction cs generalizing span with
  | nil => rw [List.flatMap_nil, List.nil_append, List.append_nil]
  | cons c cs ih => rw [List.flatMap_cons, List.append_assoc, h c, ih, List.append_assoc]

/-- A quote that is doubled inside ends the text where no other follows it. -/
theorem StaysInside.pieces?_doubled (h : StaysInside .doubled singleQuote cs)
    (hrest : ∀ c ∈ rest.head?, isQuote c = false) :
    pieces? .doubled outside (singleQuote :: cs ++ [singleQuote] ++ rest) =
      (pieces? .doubled outside rest).map
        (.quotation (singleQuote :: cs ++ [singleQuote]) :: ·) := by
  have hopen : next .doubled outside singleQuote = ([], inside singleQuote [singleQuote]) :=
    next_outside_of_opens (by decide)
  have hread : pieces? .doubled outside (singleQuote :: cs ++ [singleQuote] ++ rest) =
      pieces? .doubled (paused singleQuote (singleQuote :: cs ++ [singleQuote])) rest := by
    rw [List.append_assoc, List.cons_append, pieces?, hopen, h, List.singleton_append,
      List.singleton_append, pieces?, next_doubled_inside_quote]
    simp only [List.nil_append, Option.map_id']
  rw [hread]
  cases rest with
  | nil => rfl
  | cons c rest =>
    have hc : c ≠ singleQuote := by
      rintro rfl
      exact absurd (hrest _ rfl) (by decide)
    rw [pieces?, next_doubled_paused_of_ne hc, pieces?, Option.map_map]
    rfl

/-- A quote with no backslash before it ends the text. -/
theorem StaysInside.pieces?_escaped (hquote : QuoteStyle.escaped.opens quote = true)
    (h : StaysInside .escaped quote cs) (rest : List Char) :
    pieces? .escaped outside (quote :: cs ++ [quote] ++ rest) =
      (pieces? .escaped outside rest).map (.quotation (quote :: cs ++ [quote]) :: ·) := by
  rw [List.append_assoc, List.cons_append, pieces?, next_outside_of_opens hquote, h,
    List.singleton_append, List.singleton_append, pieces?, next_escaped_inside_quote]
  simp only [List.nil_append, Option.map_id']
  rfl

/-- Doubled quotes, and all that is no quote, stay inside. -/
theorem staysInside_doubled (c : Char) :
    StaysInside .doubled singleQuote (if c == singleQuote then [c, c] else [c]) := by
  intro span rest
  by_cases hc : c = singleQuote
  · subst hc
    rw [if_pos BEq.rfl, List.cons_append, List.singleton_append, pieces?,
      next_doubled_inside_quote, pieces?, next_doubled_paused_quote]
    simp only [List.nil_append, Option.map_id', List.append_assoc]
    rfl
  · rw [if_neg (by simpa using hc), List.singleton_append, pieces?, next_doubled_inside_of_ne hc]
    simp only [List.nil_append, Option.map_id']

/-- Characters that neither end a quoted text nor begin an escape stay inside. -/
theorem staysInside_plain (h : ∀ c ∈ cs, c ≠ quote ∧ c ≠ '\\') :
    StaysInside .escaped quote cs := by
  intro span rest
  induction cs generalizing span with
  | nil => rw [List.nil_append, List.append_nil]
  | cons c cs ih =>
    obtain ⟨hquote, hslash⟩ := h c List.mem_cons_self
    rw [List.cons_append, pieces?, next_escaped_inside_of_ne hquote hslash,
      ih fun x hx => h x (List.mem_cons_of_mem _ hx), List.append_assoc]
    simp only [List.nil_append, Option.map_id']
    rfl

/-- What follows a backslash stays inside, whatever it is. -/
theorem staysInside_backslash (hquote : '\\' ≠ quote) (c : Char)
    (h : StaysInside .escaped quote cs) : StaysInside .escaped quote ('\\' :: c :: cs) := by
  intro span rest
  have hpaused : next .escaped (paused quote (span ++ ['\\'])) c =
      ([], inside quote (span ++ ['\\'] ++ [c])) := rfl
  rw [List.cons_append, List.cons_append, pieces?, next_escaped_inside_backslash hquote, pieces?,
    hpaused, h]
  simp only [List.nil_append, Option.map_id', List.append_assoc]
  rfl

end Ends

/-! ### Digits -/

theorem digitChar_plain (n : Nat) : isQuote n.digitChar = false ∧ n.digitChar ≠ '\\' := by
  refine ⟨Bool.or_eq_false_iff.mpr ⟨beq_false_of_ne ?_, beq_false_of_ne ?_⟩, ?_⟩ <;>
    exact Nat.digitChar_ne _ (by decide) 

/-- What a number is written as in any base holds neither quotes nor backslashes. -/
theorem toDigits_plain {base n : Nat} {c : Char} (hbase : 1 < base) (h : c ∈ Nat.toDigits base n) :
    isQuote c = false ∧ c ≠ '\\' := by
  induction n using Nat.strongRecOn with
  | _ n ih =>
    by_cases hn : n < base
    · rw [Nat.toDigits_of_lt_base hn, List.mem_singleton] at h
      rw [h]
      exact digitChar_plain n
    · have hle := Nat.le_of_not_lt hn
      rw [Nat.toDigits_of_base_le hbase hle, List.mem_append, List.mem_singleton] at h
      rcases h with h | rfl
      · exact ih _ (Nat.div_lt_self (by omega) hbase) h
      · exact digitChar_plain _

/-! ### Texts in quotes -/

/-- A text in single quotes, with those inside doubled, is read to its end. -/
theorem pieces?_sqlLiteral (s : String) {rest : List Char}
    (hrest : ∀ c ∈ rest.head?, isQuote c = false) :
    pieces? .doubled outside ((sqlLiteral s).toList ++ rest) =
      (pieces? .doubled outside rest).map (.quotation (sqlLiteral s).toList :: ·) := by
  rw [sqlLiteral, String.toList_ofList]
  exact (staysInside_flatMap staysInside_doubled s.toList).pieces?_doubled hrest

theorem quoteFor_eq (cs : List Char) : quoteFor cs = singleQuote ∨ quoteFor cs = doubleQuote := by
  unfold quoteFor
  split
  · exact .inr rfl
  · exact .inl rfl

/-- A character of a text in quotes stays inside, however it is written. -/
theorem staysInside_escapeChar {quote : Char} (hquote : isQuote quote = true) (c : Char) :
    StaysInside .escaped quote (escapeChar quote c) := by
  have hslash : '\\' ≠ quote := by
    rintro rfl
    exact absurd hquote (by decide)
  have hnil : StaysInside .escaped quote [] := staysInside_plain (by simp)
  have hhex : ∀ width n, StaysInside .escaped quote (hexDigits width n) := by
    intro width n
    refine staysInside_plain fun d hd => ?_
    have hplain : isQuote d = false ∧ d ≠ '\\' := by
      rcases List.mem_append.mp hd with hd | hd
      · rw [(List.mem_replicate.mp hd).2]
        decide
      · exact toDigits_plain (by decide) hd
    refine ⟨?_, hplain.2⟩
    rintro rfl
    exact absurd hquote (by rw [hplain.1]; decide)
  unfold escapeChar
  split_ifs with hc
  · exact staysInside_backslash hslash _ hnil
  · exact staysInside_backslash hslash _ hnil
  · exact staysInside_backslash hslash _ hnil
  · exact staysInside_backslash hslash _ hnil
  · refine staysInside_plain fun d hd => ?_
    rw [List.mem_singleton.mp hd]
    simpa [not_or] using hc
  · exact staysInside_backslash hslash _ (hhex 2 c.toNat)
  · exact staysInside_backslash hslash _ (hhex 4 c.toNat)
  · exact staysInside_backslash hslash _ (hhex 8 c.toNat)

/-- A text in quotes of either kind, with backslashes inside, is read to its end. -/
theorem pieces?_quoted (s : String) (rest : List Char) :
    pieces? .escaped outside ((quoted s).toList ++ rest) =
      (pieces? .escaped outside rest).map (.quotation (quoted s).toList :: ·) := by
  have hquote : isQuote (quoteFor s.toList) = true := by
    rcases quoteFor_eq s.toList with h | h <;> rw [h] <;> decide
  rw [quoted, String.toList_ofList]
  exact (staysInside_flatMap (staysInside_escapeChar hquote) s.toList).pieces?_escaped hquote rest

/-! ### The quoted texts of a text -/

/-- The quoted texts that are found when a text is read. -/
def quotations? (style : QuoteStyle) (cs : List Char) : Option (List (List Char)) :=
  (pieces? style outside cs).map (List.filterMap TextPiece.quotation?)

/-- **A text holds certain texts in quotes**, one after the other, and each is found to its
end, whatever follows that is no quote itself. -/
def Quotes (style : QuoteStyle) (text : String) (texts : List String) : Prop :=
  ∀ rest : List Char, (∀ c ∈ rest.head?, isQuote c = false) →
    quotations? style (text.toList ++ rest) =
      (quotations? style rest).map (texts.map (fun s => (style.written s).toList) ++ ·)

/-- A text without quotes. -/
def Unquoted (text : String) : Prop := ∀ c ∈ text.toList, isQuote c = false

instance (text : String) : Decidable (Unquoted text) :=
  decidable_of_iff (text.toList.all (fun c => !isQuote c) = true) (by simp [Unquoted])

section Quotes

variable {style : QuoteStyle} {text more : String} {texts others : List String}

theorem Unquoted.append (h : Unquoted text) (hmore : Unquoted more) : Unquoted (text ++ more) := by
  intro c hc
  rw [String.toList_append, List.mem_append] at hc
  exact hc.elim (h c) (hmore c)

theorem unquoted_ite {P : Prop} [Decidable P] (h : Unquoted text) (hmore : Unquoted more) :
    Unquoted (if P then text else more) := by
  split
  · exact h
  · exact hmore

theorem unquoted_ofList {cs : List Char} (h : ∀ c ∈ cs, isQuote c = false) :
    Unquoted (String.ofList cs) := by
  rwa [Unquoted, String.toList_ofList]

/-- What holds no quotes comes before anything. -/
theorem Quotes.unquoted_append (h : Unquoted text) (hmore : Quotes style more others) :
    Quotes style (text ++ more) others := by
  intro rest hrest
  rw [← hmore rest hrest, String.toList_append, List.append_assoc, quotations?, quotations?,
    pieces?_plain h, Option.map_map]
  refine congrArg (Option.map · _) (funext fun pieces => ?_)
  have hchars : (text.toList.map TextPiece.char).filterMap TextPiece.quotation? = [] :=
    List.filterMap_eq_nil_iff.mpr fun piece hpiece => by
      obtain ⟨c, -, rfl⟩ := List.mem_map.mp hpiece
      rfl
  rw [Function.comp_apply, List.filterMap_append, hchars, List.nil_append]

theorem quotes_empty (style : QuoteStyle) : Quotes style "" [] := fun _ _ =>
  (Option.map_id' ..).symm

theorem Unquoted.quotes (h : Unquoted text) (style : QuoteStyle) : Quotes style text [] := by
  have hquotes := Quotes.unquoted_append h (quotes_empty style)
  rwa [String.append_empty] at hquotes

/-- One text after the other, if the second one does not begin with a quote. -/
theorem Quotes.append (h : Quotes style text texts) (hmore : Quotes style more others)
    (hhead : ∀ c ∈ more.toList.head?, isQuote c = false) :
    Quotes style (text ++ more) (texts ++ others) := by
  intro rest hrest
  have hnext : ∀ c ∈ (more.toList ++ rest).head?, isQuote c = false := by
    intro c hc
    rw [List.head?_append] at hc
    cases hfirst : more.toList.head? with
    | none =>
      rw [hfirst] at hc
      exact hrest c hc
    | some d =>
      rw [hfirst] at hc
      exact hhead c (hfirst.trans hc)
  rw [String.toList_append, List.append_assoc, h _ hnext, hmore rest hrest, Option.map_map,
    List.map_append]
  exact congrArg (Option.map · _) (funext fun later => (List.append_assoc ..).symm)

/-- What holds no quotes can come after anything. -/
theorem Quotes.append_unquoted (h : Quotes style text texts) (hmore : Unquoted more) :
    Quotes style (text ++ more) texts := by
  have happend := h.append (hmore.quotes style) fun c hc => hmore c (List.mem_of_mem_head? hc)
  rwa [List.append_nil] at happend

/-- Several texts with a comma between them. -/
theorem quotes_intercalate {values : List Value} {write : Value → String}
    {textsOf : Value → List String} (h : ∀ v ∈ values, Quotes style (write v) (textsOf v)) :
    Quotes style (", ".intercalate (values.map write)) (values.flatMap textsOf) := by
  induction values with
  | nil => exact quotes_empty style
  | cons v rest ih =>
    have hfirst := h v List.mem_cons_self
    have hrest := ih fun w hw => h w (List.mem_cons_of_mem _ hw)
    cases rest with
    | nil =>
      rw [List.map_singleton, String.intercalate_singleton, List.flatMap_singleton]
      exact hfirst
    | cons w rest =>
      have hcomma : Unquoted ", " := by decide
      rw [List.map_cons, List.map_cons, String.intercalate_cons_cons, String.append_assoc,
        List.flatMap_cons]
      refine hfirst.append (hrest.unquoted_append hcomma) fun c hc => ?_
      rw [String.toList_append] at hc
      cases hc
      decide

end Quotes

/-! ### Numbers -/

theorem unquoted_int (n : Int) : Unquoted (toString n) := by
  have hnat : ∀ k : Nat, Unquoted k.repr := by
    intro k
    rw [Nat.repr_eq_ofList_toDigits]
    exact unquoted_ofList fun _ hc => (toDigits_plain (by decide) hc).1
  cases n with
  | ofNat k => exact hnat k
  | negSucc k =>
    have hminus : Unquoted "-" := by decide
    exact hminus.append (hnat (k + 1))

theorem unquoted_decimalText (d : Decimal) : Unquoted (Binary64.decimalText d) := by
  have hpoint : Unquoted "." := by decide
  have hdigits : ∀ {n : Nat} {cs : List Char}, cs ⊆ Binary64.digitChars n →
      Unquoted (String.ofList cs) := fun h =>
    unquoted_ofList fun _ hc => (toDigits_plain (by decide) (h hc)).1
  have hzeros : ∀ n : Nat, Unquoted (String.ofList (List.replicate n '0')) := fun _ =>
    unquoted_ofList fun _ hc => by
      rw [(List.mem_replicate.mp hc).2]
      decide
  have hsize : ∀ n : Nat, Unquoted (String.ofList (Binary64.digitChars n)) := fun _ =>
    hdigits (List.Subset.refl _)
  unfold Binary64.decimalText
  extract_lets digits point whole missing rest power size padded places
  refine unquoted_ite (unquoted_ite ?_ ?_) ?_
  · have hzero : Unquoted "0." := by decide
    rw [String.ofList_append]
    exact hzero.append ((hzeros _).append (hsize _))
  · have hwhole : Unquoted (String.ofList (whole ++ missing)) := by
      rw [String.ofList_append]
      exact (hdigits (List.take_subset ..)).append (hzeros _)
    exact (hwhole.append hpoint).append
      (unquoted_ite (by decide) (hdigits (List.drop_subset ..)))
  · have hpadded : Unquoted (String.ofList padded) := by
      have hcases : padded = '0' :: size ∨ padded = size := by
        unfold padded
        split_ifs
        · exact .inl rfl
        · exact .inr rfl
      rcases hcases with h | h
      · rw [h, ← List.singleton_append, String.ofList_append]
        exact (hzeros 1).append (hsize _)
      · rw [h]
        exact hsize _
    have hplaces : Unquoted ("." ++ String.ofList places) :=
      hpoint.append (hdigits (List.drop_subset ..))
    exact ((((hdigits (List.take_subset ..)).append (unquoted_ite (by decide) hplaces)).append
      (by decide : Unquoted "e")).append (unquoted_ite (by decide) (by decide))).append hpadded

theorem unquoted_binary64 (x : Binary64) : Unquoted x.text := by
  cases x with
  | finite negative m q =>
    exact (unquoted_ite (by decide) (by decide)).append (unquoted_decimalText _)
  | infinite negative => exact unquoted_ite (by decide) (by decide)
  | nan => exact by decide

end Text

open Text

/-! ### Values -/

namespace Value

variable {v : Value}

/-- A scalar is a text, or is written without quotes, as an operand and inside a list alike. -/
theorem isScalar_cases (h : v.isScalar = true) :
    (∃ s, v = .str s) ∨ v.text? = none ∧ v.operand = v.literal ∧ Unquoted v.literal := by
  cases v with
  | str s => exact .inl ⟨s, rfl⟩
  | null => exact .inr ⟨rfl, rfl, by decide⟩
  | bool b => exact .inr ⟨rfl, rfl, by cases b <;> decide⟩
  | int n => exact .inr ⟨rfl, rfl, unquoted_int n⟩
  | float x => exact .inr ⟨rfl, rfl, unquoted_binary64 x⟩
  | _ => cases h

/-- As an operand, a scalar holds itself in quotes if it is a text. -/
theorem quotes_operand (h : v.isScalar = true) : Quotes .doubled v.operand v.text?.toList := by
  rcases isScalar_cases h with ⟨s, rfl⟩ | ⟨htext, hoperand, hunquoted⟩
  · intro rest hrest
    rw [operand, quotations?, pieces?_sqlLiteral s hrest, Option.map_map, quotations?,
      Option.map_map]
    rfl
  · rw [htext, hoperand]
    exact hunquoted.quotes _

/-- Inside a list, a scalar holds itself in quotes if it is a text. -/
theorem quotes_literal (h : v.isScalar = true) : Quotes .escaped v.literal v.text?.toList := by
  rcases isScalar_cases h with ⟨s, rfl⟩ | ⟨htext, -, hunquoted⟩
  · intro rest hrest
    rw [literal, quotations?, pieces?_quoted s, Option.map_map, quotations?, Option.map_map]
    rfl
  · rw [htext]
    exact hunquoted.quotes _

theorem literals_eq_map (values : List Value) : literals values = values.map literal := by
  induction values with
  | nil => rfl
  | cons v rest ih => rw [literals, ih, List.map_cons]

/-- A list of scalars holds those of them in quotes that are texts. -/
theorem quotes_items {items : List Value} (hv : v.items? = some items)
    (h : ∀ w ∈ items, w.isScalar = true) :
    Quotes .escaped v.operand (items.filterMap text?) := by
  have hitems : Quotes .escaped (", ".intercalate (literals items)) (items.filterMap text?) := by
    rw [literals_eq_map, List.filterMap_eq_flatMap_toList]
    exact quotes_intercalate fun w hw => quotes_literal (h w hw)
  have henclosed : ∀ {opening closing text : String}, Unquoted opening → Unquoted closing →
      Quotes .escaped text (items.filterMap text?) →
      Quotes .escaped (opening ++ text ++ closing) (items.filterMap text?) := by
    intro opening closing text hopening hclosing htext
    exact (htext.unquoted_append hopening).append_unquoted hclosing
  cases v with
  | list xs =>
    cases hv
    exact henclosed (by decide) (by decide) hitems
  | tuple xs =>
    cases hv
    match items with
    | [] => exact henclosed (by decide) (by decide) hitems
    | [w] => exact henclosed (by decide) (by decide) hitems
    | w :: x :: rest => exact henclosed (by decide) (by decide) hitems
  | _ => cases hv

/-- A scalar, or a list of scalars. -/
def IsFlat (v : Value) : Prop :=
  v.isScalar = true ∨ ∃ items, v.items? = some items ∧ ∀ w ∈ items, w.isScalar = true

/-- What a flat value runs through are scalars. -/
theorem IsFlat.isScalar_of_mem (h : v.IsFlat) {values : List Value}
    (hvalues : v.alternatives? = some values) : ∀ w ∈ values, w.isScalar = true := by
  rcases h with h | ⟨items, hitems, hall⟩
  · cases v with
    | str s =>
      cases hvalues
      intro w hw
      obtain ⟨c, -, rfl⟩ := List.mem_map.mp hw
      rfl
    | null => cases hvalues
    | bool b => cases hvalues
    | int n => cases hvalues
    | float x => cases hvalues
    | _ => cases h
  · have heq : v.alternatives? = some items := by
      cases v with
      | list xs => exact hitems
      | tuple xs => exact hitems
      | _ => cases hitems
    rw [heq] at hvalues
    cases hvalues
    exact hall

end Value

/-! ### Comparisons -/

namespace Condition

/-- **The texts that a comparison speaks of**: the operand, if it is a text, or those among the
values that it lists. -/
def texts (c : Condition) : List String :=
  match c.comparison with
  | .isNull => []
  | .oneOf => (c.value.alternatives?.getD []).filterMap Value.text?
  | _ =>
    match c.value.items? with
    | some items => items.filterMap Value.text?
    | none => c.value.text?.toList

/-- How quotes stand in the text of a comparison: a list that is an operand by itself is written
in its own way. -/
def quoteStyle (c : Condition) : QuoteStyle :=
  match c.comparison, c.value.items? with
  | .equal, some _ => .escaped
  | .like, some _ => .escaped
  | _, _ => .doubled

variable {c : Condition} {text : String}

/-- The operand of a comparison with a single one. -/
theorem quotes_operand (hvalue : c.value.IsFlat)
    (hcomparison : c.comparison = .equal ∨ c.comparison = .like) :
    Quotes c.quoteStyle c.value.operand c.texts := by
  rcases hvalue with hscalar | ⟨items, hitems, hall⟩
  · have hitems : c.value.items? = none := by
      cases hv : c.value with
      | list xs => rw [hv] at hscalar; cases hscalar
      | tuple xs => rw [hv] at hscalar; cases hscalar
      | _ => rfl
    have hstyle : c.quoteStyle = .doubled ∧ c.texts = c.value.text?.toList := by
      rcases hcomparison with h | h <;> simp only [quoteStyle, texts, h, hitems, and_self]
    rw [hstyle.1, hstyle.2]
    exact Value.quotes_operand hscalar
  · have hstyle : c.quoteStyle = .escaped ∧ c.texts = items.filterMap Value.text? := by
      rcases hcomparison with h | h <;> simp only [quoteStyle, texts, h, hitems, and_self]
    rw [hstyle.1, hstyle.2]
    exact Value.quotes_items hitems hall

/-- **The texts that a comparison speaks of are found in its text**, each to its end. -/
theorem quotes_render (hcolumn : Unquoted c.column) (hvalue : c.value.IsFlat)
    (h : c.render = .ok text) : Quotes c.quoteStyle text c.texts := by
  have hsingle : (c.comparison = .equal ∨ c.comparison = .like) →
      Quotes c.quoteStyle (c.column ++ " " ++ c.comparison.sign ++ " " ++ c.value.operand)
        c.texts := by
    intro hcomparison
    have hblank : Unquoted " " := by decide
    have hsign : Unquoted c.comparison.sign := by
      rcases hcomparison with h | h <;> rw [h] <;> decide
    exact (quotes_operand hvalue hcomparison).unquoted_append
      (((hcolumn.append hblank).append hsign).append hblank)
  cases hcomparison : c.comparison with
  | equal =>
    simp only [render, hcomparison, Except.ok.injEq] at h
    rw [← h, ← hcomparison]
    exact hsingle (.inl hcomparison)
  | like =>
    simp only [render, hcomparison, Except.ok.injEq] at h
    rw [← h, ← hcomparison]
    exact hsingle (.inr hcomparison)
  | isNull =>
    simp only [render, hcomparison, Except.ok.injEq] at h
    have htexts : c.texts = [] := by simp only [texts, hcomparison]
    have hnull : Unquoted " IS NULL" := by decide
    rw [← h, htexts]
    exact (hcolumn.append hnull).quotes _
  | oneOf =>
    simp only [render, hcomparison] at h
    cases hvalues : c.value.alternatives? with
    | none =>
      rw [hvalues] at h
      cases h
    | some values =>
      rw [hvalues, Except.ok.injEq] at h
      have hstyle : c.quoteStyle = .doubled := by simp only [quoteStyle, hcomparison]
      have htexts : c.texts = values.filterMap Value.text? := by
        simp only [texts, hcomparison, hvalues, Option.getD_some]
      have hopening : Unquoted " IN (" := by decide
      have hclosing : Unquoted ")" := by decide
      have hall : Quotes .doubled (", ".intercalate (values.map Value.operand))
          (values.filterMap Value.text?) := by
        rw [List.filterMap_eq_flatMap_toList]
        exact quotes_intercalate fun w hw =>
          Value.quotes_operand (hvalue.isScalar_of_mem hvalues w hw)
      rw [← h, hstyle, htexts]
      exact (hall.unquoted_append (hcolumn.append hopening)).append_unquoted hclosing

end Condition

namespace Predicate

/-- **The text of a predicate reads back as the predicate.** -/
theorem render_readsBack :
    (∀ p : Predicate, PredicateSymbol.text p.symbols = p.render ∧
      ∀ holds, PredicateSymbol.read? holds p.symbols = some (p.value holds)) ∧
    (∀ (g : Group) (relation : Relation) (table : String), (g.related relation table).render =
      g.render.map fun text => "EXISTS " ++ relation.name ++ "(" ++ text ++ ")") ∧
    (∀ (c : Condition) (text : String), Unquoted c.column → c.value.IsFlat → c.render = .ok text →
      ∃ pieces, pieces? c.quoteStyle .outside text.toList = some pieces ∧
        pieces.flatMap TextPiece.chars = text.toList ∧
        pieces.filterMap TextPiece.quotation? =
          c.texts.map fun s => (c.quoteStyle.written s).toList) := by
  refine ⟨fun p => ⟨p.text_symbols, fun holds => p.read?_symbols holds⟩, ?_, ?_⟩
  · intro g relation table
    simp only [Group.related, Group.render, Group.toPredicate, render]
    cases renderMembers g.members <;> rfl
  · intro c text hcolumn hvalue hrender
    have hquotes := Condition.quotes_render hcolumn hvalue hrender [] (by simp)
    rw [List.append_nil] at hquotes
    obtain ⟨pieces, hpieces, hspans⟩ := Option.map_eq_some_iff.mp hquotes
    refine ⟨pieces, hpieces, flatMap_chars_pieces? hpieces, hspans.trans ?_⟩
    exact List.append_nil _

/-- A text with both kinds of quotes, among the values of a list. -/
theorem render_readsBack_quotesWithin :
    Unquoted "name" ∧ (Value.list [.str "it's \"so\"", .int 3]).IsFlat ∧
      Condition.render ⟨"name", .oneOf, .list [.str "it's \"so\"", .int 3]⟩ =
        .ok "name IN ('it''s \"so\"', 3)" ∧
      ∃ pieces, pieces? .doubled .outside "name IN ('it''s \"so\"', 3)".toList = some pieces ∧
        pieces.flatMap TextPiece.chars = "name IN ('it''s \"so\"', 3)".toList ∧
        pieces.filterMap TextPiece.quotation? = ["'it''s \"so\"'".toList] := by
  have hcolumn : Unquoted "name" := by decide
  have hflat : (Value.list [.str "it's \"so\"", .int 3]).IsFlat :=
    .inr ⟨_, rfl, by simp [Value.isScalar]⟩
  have hrender : Condition.render ⟨"name", .oneOf, .list [.str "it's \"so\"", .int 3]⟩ =
      .ok "name IN ('it''s \"so\"', 3)" := rfl
  exact ⟨hcolumn, hflat, hrender, render_readsBack.2.2 _ _ hcolumn hflat hrender⟩

end Predicate

end RelationalSearch
