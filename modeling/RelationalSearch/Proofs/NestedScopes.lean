import Mathlib.Data.List.TakeWhile
import RelationalSearch.Proofs.Scoping

/-!
# Scopes inside scopes

A search goes from relation to relation and scopes the parameters anew at each, so a key
that is written for a relation of a relation loses two names, one after the other. The
main statement is that it could have lost them at once: scoping to a name and then to a
second one is scoping to the two names joined by an underscore, parameters, values and
order (`RelationalSearch.Scope.apply_apply`).

The two runs store under other keys in between. A scope is a renaming of keys, some of
which it drops (`RelationalSearch.Scope.keyWithin?`), and the renamings compose
(`RelationalSearch.Scope.keyWithin?_nested`): names in front of a key are stripped one by
one, and the broad-search parameter goes through either way, being no key with a name in
front. Only a key that is the broad-search parameter with the first name in front is read
otherwise on the way: it becomes the parameter itself, and would then go through the
second scope. It is also the only one that could be overwritten in between. What the
second scope overwrites, the fully scoped parameter beside the one that goes through, is
overwritten in the same order by the joined scope.
-/

namespace RelationalSearch

/-! ### Names without white space around them -/

namespace Text

/-- A text that does not change when it is trimmed has no white space to lose at either
end. -/
theorem dropWhile_of_trimChars {cs : List Char} (h : trimChars cs = cs) :
    cs.dropWhile isBlankChar = cs ∧ cs.reverse.dropWhile isBlankChar = cs.reverse := by
  have hfront := List.length_dropWhile_le isBlankChar cs
  have hback := List.length_dropWhile_le isBlankChar (cs.dropWhile isBlankChar).reverse
  have hlength := congrArg List.length h
  rw [trimChars, List.length_reverse] at hlength
  rw [List.length_reverse] at hback
  have hdrop : cs.dropWhile isBlankChar = cs :=
    (List.dropWhile_suffix _).eq_of_length (by omega)
  refine ⟨hdrop, ?_⟩
  rw [trimChars, hdrop] at h
  exact List.reverse_eq_iff.mp h

/-- What does not begin with white space does not do so either when it goes on. -/
theorem dropWhile_append_of_self {cs : List Char} (hne : cs ≠ [])
    (h : cs.dropWhile isBlankChar = cs) (ds : List Char) :
    (cs ++ ds).dropWhile isBlankChar = cs ++ ds := by
  rw [List.dropWhile_append, h, if_neg (by simpa using hne)]

/-- Between two names without white space around them anything may stand. -/
theorem trim_append {p q : String} (hp : p ≠ "") (hptrim : trim p = p) (hq : q ≠ "")
    (hqtrim : trim q = q) (between : String) : trim (p ++ between ++ q) = p ++ between ++ q := by
  have hchars : ∀ {s : String}, s ≠ "" → trim s = s →
      s.toList ≠ [] ∧ trimChars s.toList = s.toList := by
    intro s hs htrim
    refine ⟨fun hc => hs (String.toList_injective hc), ?_⟩
    rw [← String.toList_ofList (l := trimChars s.toList)]
    exact congrArg String.toList htrim
  obtain ⟨hpne, hp⟩ := hchars hp hptrim
  obtain ⟨hqne, hq⟩ := hchars hq hqtrim
  refine String.toList_injective ?_
  rw [trim, String.toList_ofList, String.toList_append, String.toList_append, trimChars,
    List.append_assoc, dropWhile_append_of_self hpne (dropWhile_of_trimChars hp).1,
    List.reverse_append, List.reverse_append, List.append_assoc,
    dropWhile_append_of_self (by simpa using hqne) (dropWhile_of_trimChars hq).2]
  simp

end Text

/-! ### Storing twice -/

namespace Bag

variable {b : Bag} {f g : String → Option String} {entries : List (String × Value)}

theorem storeAll_congr (h : ∀ e ∈ entries, f e.1 = g e.1) :
    b.storeAll f entries = b.storeAll g entries := by
  rw [storeAll, storeAll]
  induction entries generalizing b with
  | nil => rfl
  | cons e rest ih =>
    rw [List.foldl_cons, List.foldl_cons, h e List.mem_cons_self]
    exact ih fun e' he' => h e' (List.mem_cons_of_mem e he')

/-- Entries that have been given other keys are stored like the entries themselves, each
under the key of its key. -/
theorem storeAll_filterMap :
    b.storeAll g (entries.filterMap fun e => (f e.1).map fun key => (key, e.2)) =
      b.storeAll (fun key => (f key).bind g) entries := by
  rw [storeAll, storeAll, List.foldl_filterMap]
  refine congrArg (fun step => List.foldl step b entries) (funext fun result => funext fun e => ?_)
  cases f e.1 <;> rfl

end Bag

namespace Scope

variable {p q broadKey key : String} {ignoreBroad : Bool} {bag : Bag}

/-! ### One key -/

/-- Two texts in front of a key are taken off one by one. -/
theorem rest?_append (a b cs : List Char) : rest? (a ++ b) cs = (rest? a cs).bind (rest? b) := by
  induction a generalizing cs with
  | nil => rfl
  | cons x a ih =>
    cases cs with
    | nil => rfl
    | cons c cs =>
      rw [List.cons_append, rest?, rest?, ih]
      split <;> rfl

/-- **Two names in front of a key are stripped one by one.** -/
theorem stripped?_nested (p q key : String) :
    stripped? (p ++ "_" ++ q) key = (stripped? p key).bind (stripped? q) := by
  have hname : (p ++ "_" ++ q).toList ++ ['_'] = (p.toList ++ ['_']) ++ (q.toList ++ ['_']) := by
    simp
  rw [stripped?, stripped?, hname, rest?_append]
  cases rest? (p.toList ++ ['_']) key.toList with
  | none => rfl
  | some rest => rw [Option.bind_some, Option.map_some, Option.bind_some, stripped?,
      String.toList_ofList]

/-- A key without an underscore has no name in front. -/
theorem stripped?_of_underscore_free (h : '_' ∉ key.toList) : stripped? p key = none := by
  refine Option.eq_none_iff_forall_ne_some.mpr fun rest hrest => h ?_
  rw [stripped?_eq_some_iff.mp hrest]
  exact underscore_mem p rest

/-- **The renaming of a key in two scopes, one after the other, is that of the joined
scope**, but for the broad-search parameter with the first name in front. -/
theorem keyWithin?_nested (hp : p ≠ "") (hq : q ≠ "") (halias : '_' ∉ broadKey.toList)
    (hkey : key ≠ p ++ "_" ++ broadKey) :
    (keyWithin? p ignoreBroad broadKey key).bind (keyWithin? q ignoreBroad broadKey) =
      keyWithin? (p ++ "_" ++ q) ignoreBroad broadKey key := by
  have hpq : p ++ "_" ++ q ≠ "" := by simp
  rw [keyWithin?_named hp, keyWithin?_named hpq, stripped?_nested]
  cases hstrip : stripped? p key with
  | none =>
    -- Only the broad-search parameter goes on, and it has no name in front either.
    show Option.bind (if !ignoreBroad && key == broadKey then some key else none) _ =
      if !ignoreBroad && key == broadKey then some key else none
    split
    next hthrough =>
      obtain rfl : key = broadKey := by simpa using (Bool.and_eq_true_iff.mp hthrough).2
      rw [Option.bind_some, keyWithin?_named hq, stripped?_of_underscore_free halias]
      exact if_pos hthrough
    next => rfl
  | some rest =>
    have hfull : key = p ++ "_" ++ rest := stripped?_eq_some_iff.mp hstrip
    have hrest : rest ≠ broadKey := fun hc => hkey (by rw [hfull, hc])
    have hbroad : key ≠ broadKey := by
      rintro rfl
      exact halias (hfull ▸ underscore_mem p rest)
    rw [Option.bind_some]
    by_cases hempty : rest = ""
    · -- Nothing is left of the key after the first name, let alone after the second.
      subst hempty
      rw [stripped?_of_underscore_free (by simp)]
      simp [hbroad]
    · have hkept : ((ignoreBroad && rest == broadKey) || rest.isEmpty) = false := by
        simp [hrest, hempty]
      simp only [hkept, if_false, Bool.false_eq_true, Option.bind_some, keyWithin?_named hq]
      cases stripped? q rest with
      | some key' => rfl
      | none => simp [hrest, hbroad]

/-! ### All parameters -/

/-- A scope without exclusions looks at all that another scope has kept. -/
theorem kept_apply (scope : Scope) (bag : Bag) :
    ((scope.apply bag).without []).nonBlank = scope.apply bag := by
  have hblank : ∀ e ∈ (scope.apply bag).entries, (!e.2.isBlank) = true := fun e he => by
    rw [isBlank_of_mem_apply he, Bool.not_false]
  refine Bag.ext ?_
  rw [Bag.nonBlank, Bag.without, Bag.filter, Bag.filter]
  simp only [List.contains_nil, Bool.not_false, List.filter_true]
  exact List.filter_eq_self.mpr hblank

/-- **A scope inside a scope is the scope of the two names joined by an underscore**, in
either mode of the broad-search parameter. -/
theorem apply_apply (hp : p ≠ "") (hptrim : Text.trim p = p) (hq : q ≠ "")
    (hqtrim : Text.trim q = q) (halias : '_' ∉ broadKey.toList)
    (hbag : p ++ "_" ++ broadKey ∉ bag.keys) :
    Scope.apply ⟨[], q, ignoreBroad, broadKey⟩ (Scope.apply ⟨[], p, ignoreBroad, broadKey⟩ bag) =
      Scope.apply ⟨[], p ++ "_" ++ q, ignoreBroad, broadKey⟩ bag := by
  have hpq : p ++ "_" ++ q ≠ "" := by simp
  have hpqtrim := Text.trim_append hp hptrim hq hqtrim "_"
  have hnamed : ∀ scope : Scope, scope.name ≠ "" → Text.trim scope.name = scope.name →
      ¬((Text.trim scope.name).isEmpty && !scope.ignoreBroad) = true := by
    intro scope hname htrim
    simp [htrim, hname]
  -- Nothing is overwritten in the first scope.
  have hfirst : (Scope.apply ⟨[], p, ignoreBroad, broadKey⟩ bag).entries =
      (bag.without []).nonBlank.entries.filterMap fun e =>
        (keyWithin? p ignoreBroad broadKey e.1).map fun key => (key, e.2) := by
    rw [entries_apply_of_apart ?_ (hnamed ⟨[], p, ignoreBroad, broadKey⟩ hp hptrim)]
    · rw [hptrim]
    · intro hmem
      rw [hptrim, written, if_neg (by simpa using hp)] at hmem
      exact absurd hmem hbag
  rw [apply_eq_storeAll (hnamed ⟨[], q, ignoreBroad, broadKey⟩ hq hqtrim),
    apply_eq_storeAll (hnamed ⟨[], p ++ "_" ++ q, ignoreBroad, broadKey⟩ hpq hpqtrim), kept_apply,
    hfirst, Bag.storeAll_filterMap, hqtrim, hpqtrim]
  refine Bag.storeAll_congr ?_
  rintro ⟨key, v⟩ he
  refine keyWithin?_nested hp hq halias ?_
  rintro rfl
  exact hbag (Bag.mem_keys_of_mem (mem_entries_kept.mp he).1)

/-- The name of a post's user, and what is searched for among users under two keys: under
its own and as it is written in front of the post. -/
theorem apply_apply_post_user :
    "post" ≠ "" ∧ Text.trim "post" = "post" ∧ "user" ≠ "" ∧ Text.trim "user" = "user" ∧
      '_' ∉ "q".toList ∧
      "post" ++ "_" ++ "q" ∉ (Bag.ofEntries [("q", .str "ada"), ("post_user_name", .str "lin"),
        ("post_user_q", .str "eve")]).keys ∧
      Scope.apply ⟨[], "user", false, "q"⟩ (Scope.apply ⟨[], "post", false, "q"⟩
        (Bag.ofEntries [("q", .str "ada"), ("post_user_name", .str "lin"),
          ("post_user_q", .str "eve")])) =
        Scope.apply ⟨[], "post" ++ "_" ++ "user", false, "q"⟩
          (Bag.ofEntries [("q", .str "ada"), ("post_user_name", .str "lin"),
            ("post_user_q", .str "eve")]) :=
  ⟨by decide, by decide, by decide, by decide, by decide, by decide,
    apply_apply (by decide) (by decide) (by decide) (by decide) (by decide) (by decide)⟩

end Scope

end RelationalSearch
