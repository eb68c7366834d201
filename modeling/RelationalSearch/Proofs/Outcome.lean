import Mathlib.Data.List.Basic
import RelationalSearch.Narrated

/-!
# How runs end

A search is a run of steps each of which may fail, and what is proved of it is
proved of one step and carried through the run. `RelationalSearch.Ends` says how
a computation may end, in a result of one kind or in a failure of one kind; it is
passed along sequencing (`RelationalSearch.Ends.bind`) and along a loop, where it
asks for an invariant of the part of the list that has been gone through
(`RelationalSearch.Ends.foldlM`).

Two computations are compared by `RelationalSearch.EndAlike`: both have results, which
are related, or both fail. It is passed along in the same way. Where the failures are one
too, it is `RelationalSearch.EndsSame`.

A loop that asks a question of every member until one says yes
(`List.anyM`) is read back from its answer: a yes has a member that said yes, and
after a no all members have said no.
-/

namespace RelationalSearch

/-- The value of a narrated loop is the loop over the values of its steps. -/
@[simp] theorem Narrated.value_foldlM {ε α β : Type} (f : β → α → Narrated ε β) (b : β)
    (xs : List α) : (xs.foldlM f b).value = xs.foldlM (fun b x => (f b x).value) b := by
  induction xs generalizing b with
  | nil => rfl
  | cons x xs ih =>
    rw [List.foldlM_cons, List.foldlM_cons, Narrated.value_bind]
    exact congrArg (Except.bind _) (funext fun b => ih b)

section Ends

variable {ε α β γ : Type}

/-- **How a computation may end**: with a result that is as `ok` says, or with a
failure that is as `failed` says. -/
inductive Ends (ok : α → Prop) (failed : ε → Prop) : Except ε α → Prop
  /-- It has a result. -/
  | result {a : α} : ok a → Ends ok failed (.ok a)
  /-- It fails. -/
  | failure {e : ε} : failed e → Ends ok failed (.error e)

variable {ok : α → Prop} {failed : ε → Prop} {x : Except ε α}

theorem Ends.mono {ok' : α → Prop} {failed' : ε → Prop} (h : Ends ok failed x)
    (hok : ∀ a, ok a → ok' a) (hfailed : ∀ e, failed e → failed' e) : Ends ok' failed' x := by
  cases h with
  | result h => exact .result (hok _ h)
  | failure h => exact .failure (hfailed _ h)

theorem Ends.of_ok {a : α} (h : Ends ok failed x) (hx : x = .ok a) : ok a := by
  subst hx
  cases h with
  | result h => exact h

theorem Ends.of_error {e : ε} (h : Ends ok failed x) (hx : x = .error e) : failed e := by
  subst hx
  cases h with
  | failure h => exact h

/-- The two ways to end, taken one by one. -/
theorem Ends.intro (hok : ∀ a, x = .ok a → ok a) (hfailed : ∀ e, x = .error e → failed e) :
    Ends ok failed x := by
  cases x with
  | ok a => exact .result (hok a rfl)
  | error e => exact .failure (hfailed e rfl)

/-- A computation that never fails has a result. -/
theorem Ends.exists_ok (h : Ends ok (fun _ => False) x) : ∃ a, x = .ok a ∧ ok a := by
  cases h with
  | result h => exact ⟨_, rfl, h⟩
  | failure h => exact absurd h id

/-- A sequence with a result has a result in between. -/
theorem exists_of_bind_ok {f : α → Except ε β} {b : β} (h : x.bind f = .ok b) :
    ∃ a, x = .ok a ∧ f a = .ok b := by
  cases x with
  | ok a => exact ⟨a, rfl, h⟩
  | error e => cases h

theorem exists_of_map_ok {f : α → β} {b : β} (h : x.map f = .ok b) :
    ∃ a, x = .ok a ∧ f a = b := by
  cases x with
  | ok a => exact ⟨a, rfl, Except.ok.inj h⟩
  | error e => cases h

theorem error_of_map_error {f : α → β} {e : ε} (h : x.map f = .error e) : x = .error e := by
  cases x with
  | ok a => cases h
  | error err => cases h; rfl

theorem ok_of_mapError_ok {ε' : Type} {f : ε → ε'} {a : α} (h : x.mapError f = .ok a) :
    x = .ok a := by
  cases x with
  | ok b => cases h; rfl
  | error e => cases h

theorem exists_of_toBool (h : x.toBool = true) : ∃ a, x = .ok a := by
  cases x with
  | ok a => exact ⟨a, rfl⟩
  | error e => cases h

theorem Ends.bind {ok : β → Prop} {f : α → Except ε β}
    (h : Ends (fun a => Ends ok failed (f a)) failed x) : Ends ok failed (x >>= f) := by
  cases h with
  | result h => exact h
  | failure h => exact .failure h

/-- Steps that can only fail in one way, one after the other. -/
theorem Ends.bind_of_forall {ok : β → Prop} {f : α → Except ε β}
    (h : Ends (fun _ => True) failed x) (hf : ∀ a, Ends ok failed (f a)) :
    Ends ok failed (x >>= f) :=
  Ends.bind (h.mono (fun a _ => hf a) fun _ he => he)

theorem Ends.map {ok : β → Prop} {f : α → β} (h : Ends (fun a => ok (f a)) failed x) :
    Ends ok failed (x.map f) := by
  cases h with
  | result h => exact .result h
  | failure h => exact .failure h

/-- Two things known of the end of one computation. -/
theorem Ends.and {ok' : α → Prop} {failed' : ε → Prop} (h : Ends ok failed x)
    (h' : Ends ok' failed' x) :
    Ends (fun a => ok a ∧ ok' a) (fun e => failed e ∧ failed' e) x := by
  cases h with
  | result h => exact .result ⟨h, h'.of_ok rfl⟩
  | failure h => exact .failure ⟨h, h'.of_error rfl⟩

theorem Ends.mapError {ε' : Type} {failed : ε' → Prop} {f : ε → ε'}
    (h : Ends ok (fun e => failed (f e)) x) : Ends ok failed (x.mapError f) := by
  cases h with
  | result h => exact .result h
  | failure h => exact .failure h

/-- **The rule of loops**: an invariant that holds at the start and is passed on
by every step holds at the end. It may speak of the members done so far. -/
theorem Ends.foldlM {f : β → α → Except ε β} {xs : List α} {b : β} (inv : List α → β → Prop)
    (hstart : inv [] b)
    (hstep : ∀ done x b, x ∈ xs → inv done b → Ends (inv (done ++ [x])) failed (f b x)) :
    Ends (inv xs) failed (xs.foldlM f b) := by
  suffices h : ∀ rest done b, inv done b → done ++ rest = xs →
      Ends (inv xs) failed (rest.foldlM f b) from h xs [] b hstart rfl
  -- The induction is on what is left of the list, `done` being what has been gone through.
  intro rest
  induction rest with
  | nil =>
    intro done b hinv hsplit
    rw [List.append_nil] at hsplit
    exact .result (hsplit ▸ hinv)
  | cons x rest ih =>
    intro done b hinv hsplit
    have hx : x ∈ xs := hsplit ▸ List.mem_append_right done List.mem_cons_self
    rw [List.foldlM_cons]
    refine Ends.bind ((hstep done x b hx hinv).mono (fun b' hb' => ?_) fun _ he => he)
    exact ih (done ++ [x]) b' hb' (by rw [List.append_assoc]; exact hsplit)

/-- Steps that can only fail in one way let the whole loop fail only so. -/
theorem Ends.foldlM_of_forall {f : β → α → Except ε β} {xs : List α} {b : β}
    (h : ∀ b, ∀ x ∈ xs, Ends (fun _ => True) failed (f b x)) :
    Ends (fun _ => True) failed (xs.foldlM f b) := by
  induction xs generalizing b with
  | nil => exact .result trivial
  | cons x xs ih =>
    rw [List.foldlM_cons]
    refine (h b x List.mem_cons_self).bind_of_forall fun b' => ?_
    exact ih fun b y hy => h b y (List.mem_cons_of_mem x hy)

/-- **Two loops side by side**: a relation between their states that every pair of
steps keeps holds between their results. -/
theorem foldlM_pair {f : β → α → Except ε β} {g : γ → α → Except ε γ} {R : β → γ → Prop}
    {xs : List α} (hstep : ∀ x ∈ xs, ∀ b c b' c', R b c → f b x = .ok b' → g c x = .ok c' → R b' c')
    {b b' : β} {c c' : γ} (hstart : R b c) (hf : xs.foldlM f b = .ok b')
    (hg : xs.foldlM g c = .ok c') : R b' c' := by
  induction xs generalizing b c with
  | nil =>
    cases hf
    cases hg
    exact hstart
  | cons x xs ih =>
    rw [List.foldlM_cons] at hf hg
    cases hfx : f b x with
    | error e => rw [hfx] at hf; cases hf
    | ok b₁ =>
      cases hgx : g c x with
      | error e => rw [hgx] at hg; cases hg
      | ok c₁ =>
        rw [hfx] at hf
        rw [hgx] at hg
        exact ih (fun y hy => hstep y (List.mem_cons_of_mem x hy))
          (hstep x List.mem_cons_self b c b₁ c₁ hstart hfx hgx) hf hg

/-- Where all results of the steps of one loop are results of the steps of another,
so is the result of the loop. -/
theorem foldlM_of_forall {f g : β → α → Except ε β} {xs : List α}
    (h : ∀ b x b', f b x = .ok b' → g b x = .ok b') {b b' : β} (hf : xs.foldlM f b = .ok b') :
    xs.foldlM g b = .ok b' := by
  induction xs generalizing b with
  | nil => exact hf
  | cons x xs ih =>
    rw [List.foldlM_cons] at hf ⊢
    obtain ⟨b₁, hfx, hrest⟩ := exists_of_bind_ok hf
    rw [h b x b₁ hfx]
    exact ih hrest

/-- Loops whose steps are the same on all members are the same. -/
theorem foldlM_congr {f g : β → α → Except ε β} {xs : List α}
    (h : ∀ b, ∀ x ∈ xs, f b x = g b x) (b : β) : xs.foldlM f b = xs.foldlM g b := by
  induction xs generalizing b with
  | nil => rfl
  | cons x xs ih =>
    rw [List.foldlM_cons, List.foldlM_cons, h b x List.mem_cons_self]
    exact congrArg _ (funext fun b' => ih (fun b y hy => h b y (List.mem_cons_of_mem x hy)) b')

end Ends

/-! ### Two computations side by side -/

section EndAlike

variable {ε ε' ε₁ ε₂ α β γ δ : Type} {R : α → β → Prop} {S : γ → δ → Prop}

/-- **How two computations end alike**: both have results, and these are related, or
both fail. -/
inductive EndAlike (R : α → β → Prop) : Except ε α → Except ε' β → Prop
  /-- Both have results. -/
  | results {a : α} {b : β} : R a b → EndAlike R (.ok a) (.ok b)
  /-- Both fail, in whatever way. -/
  | failures {e : ε} {e' : ε'} : EndAlike R (.error e) (.error e')

variable {x : Except ε α} {y : Except ε' β}

/-- A computation ends like itself. -/
theorem EndAlike.refl : ∀ x : Except ε α, EndAlike Eq x x
  | .ok _ => .results rfl
  | .error _ => .failures

theorem EndAlike.of_ok {a : α} (h : EndAlike R x y) (hx : x = .ok a) : ∃ b, y = .ok b ∧ R a b := by
  subst hx
  cases h with
  | results h => exact ⟨_, rfl, h⟩

/-- What is related is a result of the first of the two. -/
theorem EndAlike.and_ok (h : EndAlike R x y) : EndAlike (fun a b => R a b ∧ x = .ok a) x y := by
  cases h with
  | results h => exact .results ⟨h, rfl⟩
  | failures => exact .failures

theorem EndAlike.bind {f : α → Except ε γ} {g : β → Except ε' δ} (h : EndAlike R x y)
    (hfg : ∀ a b, R a b → EndAlike S (f a) (g b)) : EndAlike S (x.bind f) (y.bind g) := by
  cases h with
  | results h => exact hfg _ _ h
  | failures => exact .failures

theorem EndAlike.map {f : α → γ} {g : β → δ} (h : EndAlike R x y)
    (hfg : ∀ a b, R a b → S (f a) (g b)) : EndAlike S (x.map f) (y.map g) := by
  cases h with
  | results h => exact .results (hfg _ _ h)
  | failures => exact .failures

theorem EndAlike.mapError {f : ε → ε₁} {g : ε' → ε₂} (h : EndAlike R x y) :
    EndAlike R (x.mapError f) (y.mapError g) := by
  cases h with
  | results h => exact .results h
  | failures => exact .failures

/-- Two loops end alike whose steps do. -/
theorem EndAlike.foldlM {f : α → γ → Except ε α} {g : β → γ → Except ε' β} {xs : List γ} {a : α}
    {b : β} (hstart : R a b)
    (hstep : ∀ x ∈ xs, ∀ a b, R a b → EndAlike R (f a x) (g b x)) :
    EndAlike R (xs.foldlM f a) (xs.foldlM g b) := by
  induction xs generalizing a b with
  | nil => exact .results hstart
  | cons x xs ih =>
    rw [List.foldlM_cons, List.foldlM_cons]
    refine (hstep x List.mem_cons_self a b hstart).bind fun a' b' h => ?_
    exact ih h fun y hy => hstep y (List.mem_cons_of_mem x hy)

end EndAlike

/-! ### Two computations with one failure -/

section EndsSame

variable {ε α β γ δ : Type} {R : α → β → Prop} {S : γ → δ → Prop}

/-- **How two computations end the same way**: both have results, and these are related, or
both fail, and with the same failure. -/
inductive EndsSame (R : α → β → Prop) : Except ε α → Except ε β → Prop
  /-- Both have results. -/
  | results {a : α} {b : β} : R a b → EndsSame R (.ok a) (.ok b)
  /-- Both fail in one way. -/
  | failure (e : ε) : EndsSame R (.error e) (.error e)

variable {x : Except ε α} {y : Except ε β}

theorem EndsSame.refl {R : α → α → Prop} (h : ∀ a, R a a) : ∀ x : Except ε α, EndsSame R x x
  | .ok a => .results (h a)
  | .error e => .failure e

theorem EndsSame.bind {f : α → Except ε γ} {g : β → Except ε δ} (h : EndsSame R x y)
    (hfg : ∀ a b, R a b → EndsSame S (f a) (g b)) : EndsSame S (x.bind f) (y.bind g) := by
  cases h with
  | results h => exact hfg _ _ h
  | failure e => exact .failure e

theorem EndsSame.map {f : α → γ} {g : β → δ} (h : EndsSame R x y)
    (hfg : ∀ a b, R a b → S (f a) (g b)) : EndsSame S (x.map f) (y.map g) := by
  cases h with
  | results h => exact .results (hfg _ _ h)
  | failure e => exact .failure e

end EndsSame

/-! ### Asking one member after the other -/

section AnyM

variable {ε α : Type} {p q : α → Except ε Bool} {xs : List α}

theorem exists_of_anyM_true (h : xs.anyM p = .ok true) : ∃ x ∈ xs, p x = .ok true := by
  induction xs with
  | nil => cases h
  | cons x xs ih =>
    rw [List.anyM] at h
    cases hx : p x with
    | error e => rw [hx] at h; cases h
    | ok b =>
      cases b with
      | true => exact ⟨x, List.mem_cons_self, hx⟩
      | false =>
        rw [hx] at h
        obtain ⟨y, hy, hpy⟩ := ih h
        exact ⟨y, List.mem_cons_of_mem x hy, hpy⟩

theorem forall_of_anyM_false (h : xs.anyM p = .ok false) : ∀ x ∈ xs, p x = .ok false := by
  induction xs with
  | nil => exact fun x hx => absurd hx List.not_mem_nil
  | cons x xs ih =>
    rw [List.anyM] at h
    cases hx : p x with
    | error e => rw [hx] at h; cases h
    | ok b =>
      rw [hx] at h
      cases b with
      | true => cases h
      | false =>
        intro y hy
        rcases List.mem_cons.mp hy with rfl | hy
        · exact hx
        · exact ih h y hy

/-- Members that can only fail in one way let the whole question fail only so. -/
theorem Ends.anyM {failed : ε → Prop} (h : ∀ x ∈ xs, Ends (fun _ => True) failed (p x)) :
    Ends (fun _ => True) failed (xs.anyM p) := by
  induction xs with
  | nil => exact .result trivial
  | cons x xs ih =>
    rw [List.anyM]
    refine (h x List.mem_cons_self).bind_of_forall fun b => ?_
    cases b with
    | true => exact .result trivial
    | false => exact ih fun y hy => h y (List.mem_cons_of_mem x hy)

/-- Two questions that no member answers differently have the same answer. -/
theorem anyM_pair (h : ∀ x ∈ xs, ∀ b b', p x = .ok b → q x = .ok b' → b = b') {b b' : Bool}
    (hp : xs.anyM p = .ok b) (hq : xs.anyM q = .ok b') : b = b' := by
  induction xs with
  | nil =>
    cases hp
    cases hq
    rfl
  | cons x xs ih =>
    rw [List.anyM] at hp hq
    cases hpx : p x with
    | error e => rw [hpx] at hp; cases hp
    | ok answer =>
      cases hqx : q x with
      | error e => rw [hqx] at hq; cases hq
      | ok answer' =>
        obtain rfl := h x List.mem_cons_self answer answer' hpx hqx
        rw [hpx] at hp
        rw [hqx] at hq
        cases answer with
        | true =>
          cases hp
          cases hq
          rfl
        | false => exact ih (fun y hy => h y (List.mem_cons_of_mem x hy)) hp hq

/-- Questions that are the same of all members are the same of the whole. -/
theorem anyM_congr (h : ∀ x ∈ xs, p x = q x) : xs.anyM p = xs.anyM q := by
  induction xs with
  | nil => rfl
  | cons x xs ih =>
    rw [List.anyM, List.anyM, h x List.mem_cons_self,
      ih fun y hy => h y (List.mem_cons_of_mem x hy)]

/-- Where all answers of one question are answers of another, so is the answer to
the whole. -/
theorem anyM_of_forall (h : ∀ x ∈ xs, ∀ b, p x = .ok b → q x = .ok b) {b : Bool}
    (hp : xs.anyM p = .ok b) : xs.anyM q = .ok b := by
  induction xs with
  | nil => exact hp
  | cons x xs ih =>
    rw [List.anyM] at hp ⊢
    cases hx : p x with
    | error e => rw [hx] at hp; cases hp
    | ok b' =>
      rw [hx] at hp
      rw [h x List.mem_cons_self b' hx]
      cases b' with
      | true => exact hp
      | false => exact ih (fun y hy => h y (List.mem_cons_of_mem x hy)) hp

end AnyM

end RelationalSearch
