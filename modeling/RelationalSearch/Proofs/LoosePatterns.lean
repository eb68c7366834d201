import Mathlib.Data.List.Infix
import RelationalSearch.Predicate.Leaf

/-!
# What a loose pattern finds

A loose comparison hands a pattern to the database, and it is the database that
matches it. The meaning of such a pattern is stated here on its own
(`RelationalSearch.Sql.fits`): a percent sign stands for any run of characters, an
underscore for any one character, and every other character for itself.

The pattern of a text has a percent sign around each of its letters and numerals and
holds nothing else. So it fits exactly the texts that have these characters in this
order (`RelationalSearch.Sql.fits_spaced`), wherever they stand, and nothing in the
text that was asked for acts as a wildcard.
-/

namespace RelationalSearch

/-! ### The meaning of a pattern -/

namespace Sql

/-- **Whether a text fits a pattern.** -/
def fits : (pattern text : List Char) → Bool
  | [], text => text.isEmpty
  | p :: pattern, text =>
    if p = '%' then text.tails.any (fits pattern)
    else match text with
      | [] => false
      | c :: rest => (p == '_' || p == c) && fits pattern rest

variable {pattern text kept : List Char} {p : Char}

/-- A percent sign stands for a run of characters: what is left fits the rest. -/
theorem fits_run : fits ('%' :: pattern) text = true ↔
    ∃ rest, rest <:+ text ∧ fits pattern rest = true := by
  simp only [fits, if_true, List.any_eq_true, List.mem_tails]

/-- A character that is no wildcard stands for itself. -/
theorem fits_itself (hrun : p ≠ '%') (hone : p ≠ '_') :
    fits (p :: pattern) text = true ↔ ∃ rest, text = p :: rest ∧ fits pattern rest = true := by
  cases text with
  | nil => simp [fits, hrun]
  | cons c rest =>
    have hone : (p == '_') = false := beq_false_of_ne hone
    rw [fits, if_neg hrun, hone, Bool.false_or, Bool.and_eq_true_iff, beq_iff_eq]
    constructor
    · rintro ⟨rfl, hrest⟩
      exact ⟨rest, rfl, hrest⟩
    · rintro ⟨_, ⟨⟩, hrest⟩
      exact ⟨rfl, hrest⟩

/-- **Characters with percent signs between and around them** fit the texts that have
these characters in this order. -/
theorem fits_spaced (hkept : ∀ c ∈ kept, c ≠ '%' ∧ c ≠ '_') :
    fits ('%' :: kept.flatMap fun c => [c, '%']) text = true ↔ kept.Sublist text := by
  induction kept generalizing text with
  | nil =>
    rw [List.flatMap_nil, fits_run]
    exact iff_of_true ⟨[], List.nil_suffix, rfl⟩ (List.nil_sublist text)
  | cons c kept ih =>
    obtain ⟨hrun, hone⟩ := hkept c List.mem_cons_self
    have ih : ∀ {text}, fits ('%' :: kept.flatMap fun c => [c, '%']) text = true ↔
        kept.Sublist text := ih fun c hc => hkept c (List.mem_cons_of_mem _ hc)
    -- The first percent sign stops somewhere, and the character is found right after it.
    have hstep : fits ('%' :: (c :: kept).flatMap fun c => [c, '%']) text = true ↔
        ∃ rest, c :: rest <:+ text ∧ kept.Sublist rest := by
      rw [List.flatMap_cons, List.cons_append, List.singleton_append, fits_run]
      constructor
      · rintro ⟨stopped, hsuffix, hstopped⟩
        obtain ⟨rest, rfl, hrest⟩ := (fits_itself hrun hone).mp hstopped
        exact ⟨rest, hsuffix, ih.mp hrest⟩
      · rintro ⟨rest, hsuffix, hrest⟩
        exact ⟨c :: rest, hsuffix, (fits_itself hrun hone).mpr ⟨rest, rfl, ih.mpr hrest⟩⟩
    rw [hstep]
    constructor
    · rintro ⟨rest, hsuffix, hrest⟩
      exact (hrest.cons_cons c).trans hsuffix.sublist
    · intro h
      obtain ⟨before, after, rfl, hc, hafter⟩ := List.cons_sublist_iff.mp h
      obtain ⟨skipped, between, rfl⟩ := List.append_of_mem hc
      exact ⟨between ++ after, ⟨skipped, by simp⟩, hafter.trans (List.sublist_append_right _ _)⟩

end Sql

/-! ### The pattern of a text -/

/-- The letters and numerals of a text, in order. -/
def Text.alphanumerics (s : String) : List Char := s.toList.filter Text.isAlphanumericChar

namespace Value

variable {term : String} {c : Char}

/-- Neither the wildcards nor the usual escape character is a letter or numeral. -/
theorem not_alphanumeric_of_wildcard :
    ∀ c ∈ ['%', '_', '\\'], Text.isAlphanumericChar c = false := by
  intro c hc
  simp only [List.mem_cons, List.not_mem_nil, or_false] at hc
  rcases hc with rfl | rfl | rfl <;> decide +kernel

/-- **The pattern of a text with a letter or numeral.** -/
theorem likePattern_of_mem (h : c ∈ Text.alphanumerics term) :
    (str term).likePattern.toList =
      '%' :: (Text.alphanumerics term).flatMap fun c => [c, '%'] := by
  have hkept : (term.toList.filter Text.isAlphanumericChar).isEmpty = false := by
    rw [List.isEmpty_eq_false_iff]
    exact List.ne_nil_of_mem h
  rw [likePattern, String.toList_ofList, looseChars, shown, hkept]
  rfl

/-- The letters and numerals of a pattern are those of the text. -/
theorem alphanumerics_likePattern (h : c ∈ Text.alphanumerics term) :
    Text.alphanumerics (str term).likePattern = Text.alphanumerics term := by
  have hpercent := not_alphanumeric_of_wildcard '%' (by decide)
  have hall : ∀ c ∈ Text.alphanumerics term, Text.isAlphanumericChar c = true := fun c hc =>
    (List.mem_filter.mp hc).2
  rw [Text.alphanumerics, likePattern_of_mem h, List.filter_cons_of_neg (by simp [hpercent])]
  generalize Text.alphanumerics term = kept at hall
  induction kept with
  | nil => rfl
  | cons k kept ih =>
    rw [List.flatMap_cons, List.filter_append, ih fun c hc => hall c (List.mem_cons_of_mem _ hc),
      List.filter_cons_of_pos (hall k List.mem_cons_self),
      List.filter_cons_of_neg (by simp [hpercent])]
    rfl

/-- **A loose pattern finds exactly the texts that hold the letters and numerals of the
term in order**, when the term has any. Hence nothing else of the term counts: what
looks like a wildcard or an escape in it is not in the pattern. A term fits its own
pattern, and a pattern is its own pattern. -/
theorem likePattern_finds (h : ∃ c ∈ term.toList, Text.isAlphanumericChar c = true) :
    (∀ text : String, Sql.fits (str term).likePattern.toList text.toList = true ↔
      (Text.alphanumerics term).Sublist text.toList) ∧
    (∀ c ∈ (str term).likePattern.toList, c = '%' ∨ c ∈ Text.alphanumerics term) ∧
    (∀ other, Text.alphanumerics other = Text.alphanumerics term →
      (str other).likePattern = (str term).likePattern) ∧
    Sql.fits (str term).likePattern.toList term.toList = true ∧
    (str (str term).likePattern).likePattern = (str term).likePattern := by
  obtain ⟨c, hc⟩ : ∃ c, c ∈ Text.alphanumerics term :=
    h.imp fun c hc => List.mem_filter.mpr hc
  have hfits : ∀ text : String, Sql.fits (str term).likePattern.toList text.toList = true ↔
      (Text.alphanumerics term).Sublist text.toList := fun text => by
    rw [likePattern_of_mem hc]
    refine Sql.fits_spaced fun c hc => ?_
    have hkept := (List.mem_filter.mp hc).2
    refine ⟨?_, ?_⟩ <;> rintro rfl
    · exact absurd hkept (by rw [not_alphanumeric_of_wildcard _ (by decide)]; decide)
    · exact absurd hkept (by rw [not_alphanumeric_of_wildcard _ (by decide)]; decide)
  have hsame : ∀ other, Text.alphanumerics other = Text.alphanumerics term →
      (str other).likePattern = (str term).likePattern := fun other hother => by
    refine String.toList_injective ?_
    rw [likePattern_of_mem (hother ▸ hc), likePattern_of_mem hc, hother]
  refine ⟨hfits, fun k hk => ?_, hsame, (hfits term).mpr List.filter_sublist,
    hsame _ (alphanumerics_likePattern hc)⟩
  rw [likePattern_of_mem hc, List.mem_cons, List.mem_flatMap] at hk
  rcases hk with hk | ⟨kept, hkept, hk⟩
  · exact Or.inl hk
  · rcases List.mem_cons.mp hk with rfl | hk
    · exact Or.inr hkept
    · exact Or.inl (List.mem_singleton.mp hk)

/-- A term made of wildcards and an escape beside a letter and a digit. -/
theorem likePattern_finds_wildcards :
    Sql.fits (str "%_a\\5").likePattern.toList "A b 50 + a 5".toList = true ∧
      Sql.fits (str "%_a\\5").likePattern.toList "5a".toList = false := by
  have hmarked : ∃ c ∈ "%_a\\5".toList, Text.isAlphanumericChar c = true :=
    ⟨'a', by decide, by decide +kernel⟩
  have hfits := (likePattern_finds hmarked).1
  have hkept : Text.alphanumerics "%_a\\5" = ['a', '5'] := by decide +kernel
  rw [hkept] at hfits
  exact ⟨(hfits _).mpr (by decide),
    Bool.eq_false_iff.mpr fun hc => absurd ((hfits _).mp hc) (by decide)⟩

end Value

end RelationalSearch
