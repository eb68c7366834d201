import Mathlib.Data.List.TakeWhile
import RelationalSearch.Params.Bracket

/-!
# The form of a key

A key is written in brackets when something stands in front of an opening bracket and a
closing one ends it, with no other bracket before, between or behind
(`RelationalSearch.KeyForm.bracketed`). If nothing stands between the brackets it marks an
item of a list, and an entry of a table otherwise; every other key is plain.

This is what reading a key comes to (`RelationalSearch.KeyForm.read_eq_iff`), as long as it
holds no line feed: one that follows the closing bracket is overlooked. What has been
written in brackets is read back in any case.
-/

namespace RelationalSearch.KeyForm

/-! ### Keys in brackets -/

section Brackets

variable {name sub : String} {cs : List Char}

/-- Whether a text holds no bracket. -/
def Bare (s : String) : Prop := ∀ c ∈ s.toList, isBracket c = false

instance (s : String) : Decidable (Bare s) := List.decidableBAll (fun c => isBracket c = false) _

/-- A name with brackets behind it. -/
def bracketed (name sub : String) : String := name ++ "[" ++ sub ++ "]"

theorem toList_bracketed :
    (bracketed name sub).toList = name.toList ++ '[' :: (sub.toList ++ [']']) := by
  simp [bracketed]

/-- The characters before the first bracket are those of a bare text in front of it. -/
theorem takeWhile_bare (h : Bare name) {c : Char} (hc : isBracket c = true) (cs : List Char) :
    ((name.toList ++ c :: cs).takeWhile fun c => !isBracket c) = name.toList ∧
      ((name.toList ++ c :: cs).dropWhile fun c => !isBracket c) = c :: cs := by
  have hbare : ∀ a ∈ name.toList, (!isBracket a) = true := fun a ha => by rw [h a ha]; rfl
  rw [List.takeWhile_append_of_pos hbare, List.dropWhile_append_of_pos hbare]
  simp [hc]

/-- What has been written in brackets comes apart again. -/
theorem splitBracketed?_bracketed (hne : name ≠ "") (hname : Bare name) (hsub : Bare sub) :
    splitBracketed? (bracketed name sub).toList = some (name, sub) := by
  obtain ⟨htake, hdrop⟩ := takeWhile_bare hname (c := '[') rfl (sub.toList ++ [']'])
  obtain ⟨htake', hdrop'⟩ := takeWhile_bare hsub (c := ']') rfl []
  rw [toList_bracketed, splitBracketed?, htake, hdrop]
  simp [htake', hdrop', hne]

/-- The characters before the first bracket hold none. -/
theorem bare_takeWhile (cs : List Char) :
    Bare (String.ofList (cs.takeWhile fun c => !isBracket c)) := by
  intro c hc
  rw [String.toList_ofList] at hc
  simpa using List.mem_takeWhile_imp hc

/-- **What comes apart was written in brackets.** -/
theorem of_splitBracketed? (hline : '\n' ∉ cs) (h : splitBracketed? cs = some (name, sub)) :
    name ≠ "" ∧ Bare name ∧ Bare sub ∧ (bracketed name sub).toList = cs := by
  unfold splitBracketed? at h
  split at h
  next rest hrest =>
    dsimp only at h
    split at h
    next htail =>
      cases h
      obtain ⟨hne, hclosed⟩ := Bool.and_eq_true_iff.mp htail
      have hcs := List.takeWhile_append_dropWhile (p := fun c => !isBracket c) (l := cs)
      have hcs' := List.takeWhile_append_dropWhile (p := fun c => !isBracket c) (l := rest)
      -- A line feed behind the closing bracket would be one of the key.
      have hend : rest.dropWhile (fun c => !isBracket c) = [']'] := by
        rcases Bool.or_eq_true_iff.mp hclosed with hend | hend
        · exact eq_of_beq hend
        · refine absurd ?_ hline
          rw [← hcs, hrest, ← hcs', eq_of_beq hend]
          simp
      refine ⟨by simpa using hne, bare_takeWhile cs, bare_takeWhile rest, ?_⟩
      rw [toList_bracketed, String.toList_ofList, String.toList_ofList, ← hend, hcs', ← hrest, hcs]
    next => cases h
  next => cases h

end Brackets

/-! ### Forms -/

/-- The name of the parameter that a key is about. -/
def name : KeyForm → String
  | plain key => key
  | item key => key
  | entry key _ => key

/-- A key of a form. -/
def written : KeyForm → String
  | plain key => key
  | item key => bracketed key ""
  | entry key sub => bracketed key sub

/-- **Whether a form is that of a key**: a plain key is not written in brackets, names
and what stands between brackets are bare, and an entry has a key of its own. -/
def Proper : KeyForm → Prop
  | plain key => ∀ name sub, name ≠ "" → Bare name → Bare sub → key ≠ bracketed name sub
  | item key => key ≠ "" ∧ Bare key
  | entry key sub => key ≠ "" ∧ Bare key ∧ sub ≠ "" ∧ Bare sub

variable {key sub : String} {form : KeyForm}

/-- A bare key is plain. -/
theorem read_of_bare (h : Bare key) : read key = plain key := by
  have hdrop : (key.toList.dropWhile fun c => !isBracket c) = [] := by
    rw [List.dropWhile_eq_nil_iff]
    intro c hc
    rw [h c hc]
    rfl
  rw [read, splitBracketed?, hdrop]

theorem read_written_item (hne : key ≠ "") (hkey : Bare key) :
    read (item key).written = item key := by
  rw [read, written, splitBracketed?_bracketed hne hkey (by decide)]
  rfl

theorem read_written_entry (hne : key ≠ "") (hkey : Bare key) (hsubne : sub ≠ "")
    (hsub : Bare sub) : read (entry key sub).written = entry key sub := by
  rw [read, written, splitBracketed?_bracketed hne hkey hsub]
  exact if_neg (by simpa using hsubne)

/-- **The form of a key without line feeds** is the one that is written like it. -/
theorem read_eq_iff (hline : '\n' ∉ key.toList) :
    read key = form ↔ form.Proper ∧ form.written = key := by
  constructor
  · rintro rfl
    rw [read]
    cases hsplit : splitBracketed? key.toList with
    | none =>
      refine ⟨fun name sub hne hname hsub hkey => ?_, rfl⟩
      rw [hkey, splitBracketed?_bracketed hne hname hsub] at hsplit
      cases hsplit
    | some parts =>
      obtain ⟨name, sub⟩ := parts
      obtain ⟨hne, hname, hsub, hkey⟩ := of_splitBracketed? hline hsplit
      have hwritten : bracketed name sub = key := String.toList_injective hkey
      by_cases hempty : sub = ""
      · subst hempty
        exact ⟨⟨hne, hname⟩, hwritten⟩
      · simp only [String.isEmpty_iff, if_neg hempty]
        exact ⟨⟨hne, hname, hempty, hsub⟩, hwritten⟩
  · rintro ⟨hproper, rfl⟩
    cases form with
    | plain key =>
      rw [written] at hline ⊢
      rw [read]
      cases hsplit : splitBracketed? key.toList with
      | none => rfl
      | some parts =>
        obtain ⟨name, sub⟩ := parts
        obtain ⟨hne, hname, hsub, hkey⟩ := of_splitBracketed? hline hsplit
        exact absurd (String.toList_injective hkey.symm) (hproper name sub hne hname hsub)
    | item key => exact read_written_item hproper.1 hproper.2
    | entry key sub =>
      obtain ⟨hne, hkey, hsubne, hsub⟩ := hproper
      exact read_written_entry hne hkey hsubne hsub

end RelationalSearch.KeyForm
