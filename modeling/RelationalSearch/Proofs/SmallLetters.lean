import Mathlib.Tactic.Common
import RelationalSearch.Proofs.OrderSpellings
import RelationalSearch.Schema.ColumnType

/-!
# Small letters

Two texts that differ at most in the case of ASCII letters
(`RelationalSearch.Text.SameLetters`) have one small form
(`RelationalSearch.Text.SameLetters.toSmall_eq`), and as names of types they are compared in
one form (`RelationalSearch.TypeName.normalized_eq`). All that is done to such a name on the
way looks for blanks, line breaks and parentheses and at the letters around a sigma, and none
of this tells a capital from a small letter.

A text has a point in it if and only if its small form does
(`RelationalSearch.Text.mem_toSmall_point`), and the form of a name of a type has one only if
the name does. So names of types without a point are told from the names of columns, which
come with their table before a point.
-/

namespace RelationalSearch

namespace Text

/-! ### Letters that differ in case -/

/-- **Two texts that differ at most in the case of ASCII letters.** -/
def SameLetters (a b : String) : Prop := a.toList.map Char.toLower = b.toList.map Char.toLower

instance (a b : String) : Decidable (SameLetters a b) :=
  inferInstanceAs (Decidable (a.toList.map Char.toLower = b.toList.map Char.toLower))

/-- What does not tell the two cases of an ASCII letter apart does not for any letter. -/
theorem toLower_invariant {α : Type} {f : Char → α}
    (h : ∀ k < 26, f (Char.ofNat (65 + k)).toLower = f (Char.ofNat (65 + k))) (c : Char) :
    f c.toLower = f c := by
  by_cases hc : 65 ≤ c.toNat ∧ c.toNat ≤ 90
  · have hletter := h (c.toNat - 65) (by omega)
    rwa [Nat.add_sub_cancel' hc.1, Char.ofNat_toNat] at hletter
  · have hsame : c.toLower = c := dif_neg hc
    rw [hsame]

theorem isBlankChar_toLower (c : Char) : isBlankChar c.toLower = isBlankChar c :=
  toLower_invariant (by decide +kernel) c

theorem smallForm_toLower (c : Char) : smallForm c.toLower = smallForm c :=
  toLower_invariant (by decide +kernel) c

theorem isSigma_toLower (c : Char) : (c.toLower.toNat == 0x3A3) = (c.toNat == 0x3A3) :=
  toLower_invariant (f := fun c => c.toNat == 0x3A3) (by decide) c

/-- Both cases of a letter count as letters beside a sigma. -/
theorem meetsCased_map_toLower (cs : List Char) :
    meetsCased (cs.map Char.toLower) = meetsCased cs := by
  have hignorable : (fun c : Char => inIntervals caseIgnorableIntervals c.toNat) ∘ Char.toLower =
      fun c => inIntervals caseIgnorableIntervals c.toNat :=
    funext fun c => toLower_invariant
      (f := fun c => inIntervals caseIgnorableIntervals c.toNat) (by decide +kernel) c
  have hcased : ∀ c : Char, inProgressions casedProgressions c.toLower.toNat =
      inProgressions casedProgressions c.toNat :=
    toLower_invariant (f := fun c => inProgressions casedProgressions c.toNat)
      (by decide +kernel)
  unfold meetsCased
  rw [List.dropWhile_map, hignorable]
  cases cs.dropWhile fun c => inIntervals caseIgnorableIntervals c.toNat with
  | nil => rfl
  | cons c rest => exact hcased c

/-- The small form of a text does not depend on the case of its letters. -/
theorem toSmallChars_map_toLower (before cs : List Char) :
    toSmallChars (before.map Char.toLower) (cs.map Char.toLower) = toSmallChars before cs := by
  induction cs generalizing before with
  | nil => rfl
  | cons c rest ih =>
    rw [List.map_cons, toSmallChars, toSmallChars, isSigma_toLower, smallForm_toLower,
      meetsCased_map_toLower, meetsCased_map_toLower, ← List.map_cons, ih]

theorem SameLetters.toSmall_eq {a b : String} (h : SameLetters a b) : toSmall a = toSmall b := by
  have hchars : ∀ s : String, toSmallChars [] (s.toList.map Char.toLower) =
      toSmallChars [] s.toList := fun s => toSmallChars_map_toLower [] s.toList
  rw [toSmall, toSmall, ← hchars a, ← hchars b, h]

/-! ### Points -/

theorem eq_of_ofNat_eq_point {n : Nat} (h : Char.ofNat n = '.') : n = 46 := by
  by_cases hvalid : n.isValidChar
  · have hnumber : Char.ofNat n = Char.ofNatAux n hvalid := dif_pos hvalid
    exact congrArg Char.toNat (hnumber.symm.trans h)
  · have hnone : Char.ofNat n = Char.ofNat 0 := dif_neg hvalid
    exact absurd (hnone.symm.trans h) (by decide)

/-- No other letter has a point for its small form. -/
theorem eq_point_of_mem_smallForm {c : Char} (h : '.' ∈ smallForm c) : c = '.' := by
  unfold smallForm at h
  split at h
  · exact absurd h (by decide)
  · have hpoint := List.mem_singleton.mp h
    unfold shiftBy at hpoint
    split at hpoint
    · rename_i r hr
      -- The letters of the table all lie beyond the point, and so do their small forms.
      have hbeyond : ∀ r ∈ toSmallTable, 46 < (r.1 : Int) + r.2.2.2 := by decide +kernel
      have hfirst : r.1 ≤ c.toNat := by
        have hcovers := List.find?_some hr
        simp only [Bool.and_eq_true, decide_eq_true_eq] at hcovers
        exact hcovers.1.1
      have hlater := hbeyond r (List.mem_of_find?_eq_some hr)
      have hnumber := eq_of_ofNat_eq_point hpoint.symm
      omega
    · exact hpoint.symm

theorem mem_toSmallChars_point (before cs : List Char) :
    '.' ∈ toSmallChars before cs ↔ '.' ∈ cs := by
  induction cs generalizing before with
  | nil => exact Iff.rfl
  | cons c rest ih =>
    rw [toSmallChars, List.mem_append, ih, List.mem_cons]
    refine or_congr_left ?_
    constructor
    · intro h
      split at h
      · exfalso
        split at h <;> exact absurd h (by decide)
      · exact (eq_point_of_mem_smallForm h).symm
    · rintro rfl
      rw [if_neg (by decide)]
      decide

/-- **A text has a point where its small form has one.** -/
theorem mem_toSmall_point (s : String) : '.' ∈ (toSmall s).toList ↔ '.' ∈ s.toList := by
  rw [toSmall, String.toList_ofList, mem_toSmallChars_point]

/-! ### Parts of a text -/

section Parts

variable {separator : Char}

theorem splitAtEach_map_toLower (h : ∀ c : Char, (c.toLower == separator) = (c == separator))
    (cs : List Char) : splitAtEach separator (cs.map Char.toLower) =
      (splitAtEach separator cs).map (List.map Char.toLower) := by
  induction cs with
  | nil => rfl
  | cons c rest ih =>
    rw [List.map_cons, splitAtEach, splitAtEach, h, ih]
    cases c == separator with
    | true => rfl
    | false =>
      rw [if_neg (by decide), if_neg (by decide)]
      cases splitAtEach separator rest <;> rfl

theorem joinWith_map_toLower (h : separator.toLower = separator) (parts : List (List Char)) :
    joinWith separator (parts.map (List.map Char.toLower)) =
      (joinWith separator parts).map Char.toLower := by
  induction parts with
  | nil => rfl
  | cons part rest ih =>
    cases rest with
    | nil => rfl
    | cons next rest =>
      have hjoin : ∀ p q : List Char, ∀ parts, joinWith separator (p :: q :: parts) =
          p ++ separator :: joinWith separator (q :: parts) := fun _ _ _ => rfl
      rw [List.map_cons] at ih
      rw [List.map_cons, List.map_cons, hjoin, ih, hjoin, List.map_append, List.map_cons, h]

theorem trimChars_map_toLower (cs : List Char) :
    trimChars (cs.map Char.toLower) = (trimChars cs).map Char.toLower := by
  have hblank : isBlankChar ∘ Char.toLower = isBlankChar := funext isBlankChar_toLower
  rw [trimChars, trimChars, List.dropWhile_map, hblank, ← List.map_reverse, List.dropWhile_map,
    hblank, List.map_reverse]

theorem trimChars_subset (cs : List Char) : trimChars cs ⊆ cs := by
  intro c hc
  have hback := (List.dropWhile_sublist isBlankChar).subset (List.mem_reverse.mp hc)
  exact (List.dropWhile_sublist isBlankChar).subset (List.mem_reverse.mp hback)

theorem mem_of_mem_splitAtEach {cs part : List Char} (h : part ∈ splitAtEach separator cs) :
    part ⊆ cs := by
  induction cs generalizing part with
  | nil => rw [List.mem_singleton.mp h]; exact List.Subset.refl _
  | cons c rest ih =>
    rw [splitAtEach] at h
    split at h
    · rcases List.mem_cons.mp h with rfl | h
      · exact List.nil_subset _
      · exact List.subset_cons_of_subset c (ih h)
    · split at h
      · rename_i first parts hparts
        rcases List.mem_cons.mp h with rfl | h
        · exact List.cons_subset_cons c (ih (hparts ▸ List.mem_cons_self))
        · exact List.subset_cons_of_subset c (ih (hparts ▸ List.mem_cons_of_mem _ h))
      · rw [List.mem_singleton.mp h]
        exact List.cons_subset_cons c (List.nil_subset _)

theorem mem_joinWith {c : Char} {parts : List (List Char)} (h : c ∈ joinWith separator parts) :
    c = separator ∨ ∃ part ∈ parts, c ∈ part := by
  induction parts with
  | nil => cases h
  | cons part rest ih =>
    cases rest with
    | nil => exact .inr ⟨part, List.mem_cons_self, h⟩
    | cons next rest =>
      rcases List.mem_append.mp h with h | h
      · exact .inr ⟨part, List.mem_cons_self, h⟩
      · rcases List.mem_cons.mp h with h | h
        · exact .inl h
        · obtain hc | ⟨part', hpart, hc⟩ := ih h
          · exact .inl hc
          · exact .inr ⟨part', List.mem_cons_of_mem _ hpart, hc⟩

end Parts

end Text

namespace TypeName

open Text

theorem withoutArguments_map_toLower (line : List Char) :
    withoutArguments (line.map Char.toLower) = (withoutArguments line).map Char.toLower := by
  have hopening : (fun c : Char => c != '(') ∘ Char.toLower = fun c => c != '(' :=
    funext fun c => toLower_invariant (f := fun c => c != '(') (by decide) c
  have hclosing : (fun c : Char => c != ')') ∘ Char.toLower = fun c => c != ')' :=
    funext fun c => toLower_invariant (f := fun c => c != ')') (by decide) c
  have hcontains : ∀ cs : List Char, (cs.map Char.toLower).contains ')' = cs.contains ')' := by
    intro cs
    rw [List.contains_eq_any_beq, List.contains_eq_any_beq, List.any_map]
    exact congrArg cs.any (funext fun c => toLower_invariant (f := fun c => ')' == c) (by decide) c)
  simp only [withoutArguments, List.dropWhile_map, List.takeWhile_map, hopening, hclosing,
    hcontains, ← List.map_reverse]
  split
  · rw [List.map_append]
  · rfl

/-- **Names of types that differ at most in the case of letters are compared in one form.** -/
theorem normalized_eq {a b : String} (h : SameLetters a b) : normalized a = normalized b := by
  have hbreak : ∀ c : Char, (c.toLower == '\n') = (c == '\n') :=
    toLower_invariant (f := fun c => c == '\n') (by decide)
  have hlines : ∀ cs : List Char,
      trimChars (joinWith '\n' ((splitAtEach '\n' (cs.map Char.toLower)).map withoutArguments)) =
        (trimChars (joinWith '\n' ((splitAtEach '\n' cs).map withoutArguments))).map
          Char.toLower := by
    intro cs
    rw [splitAtEach_map_toLower hbreak, List.map_map, ← trimChars_map_toLower,
      ← joinWith_map_toLower (by decide), List.map_map]
    exact congrArg (fun f => trimChars (joinWith '\n' ((splitAtEach '\n' cs).map f)))
      (funext withoutArguments_map_toLower)
  refine SameLetters.toSmall_eq ?_
  rw [SameLetters, trim, trim, String.toList_ofList, String.toList_ofList, String.toList_ofList,
    String.toList_ofList, ← hlines, ← hlines, h]

theorem withoutArguments_subset (line : List Char) : withoutArguments line ⊆ line := by
  unfold withoutArguments
  extract_lets opened
  split
  · refine List.append_subset.mpr ⟨(List.takeWhile_sublist _).subset, fun c hc => ?_⟩
    have hopened := (List.takeWhile_sublist _).subset (List.mem_reverse.mp hc)
    exact (List.dropWhile_sublist _).subset (List.mem_reverse.mp hopened)
  · exact List.Subset.refl _

/-- **The form of a name has a point only if the name does.** -/
theorem mem_point_of_normalized {name : String} (h : '.' ∈ (normalized name).toList) :
    '.' ∈ name.toList := by
  rw [normalized, mem_toSmall_point, trim, String.toList_ofList, String.toList_ofList] at h
  obtain hbreak | ⟨part, hpart, hc⟩ := mem_joinWith (trimChars_subset _ h)
  · cases hbreak
  · obtain ⟨line, hline, rfl⟩ := List.mem_map.mp hpart
    exact mem_of_mem_splitAtEach hline (withoutArguments_subset line hc)

end TypeName

end RelationalSearch
