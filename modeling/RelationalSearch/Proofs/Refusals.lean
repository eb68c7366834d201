import RelationalSearch.Proofs.Compilation

/-!
# Kinds of refusals

Each part of a search refuses for reasons of its own kind: parameters that cannot
be read are invalid input, and so is a range of time that makes no sense; an
entity, a relation or a table may not be known. The limit of depth is looked at by
a walk and by a look-ahead only, so no other part is ever refused because of it
(`RelationalSearch.Failure.NotDeep`), and what is proved of walks and look-aheads
is all that matters for a search as a whole.
-/

namespace RelationalSearch

/-- If a failure is a refusal, then it is of a kind. -/
def Failure.RefusedAs (kind : ErrorKind) : Failure → Prop
  | .refused cause => cause.kind = kind
  | _ => True

/-- A search was refused because of the way in which it is set up. -/
def Failure.IsConfigurationError : Failure → Prop
  | .refused cause => cause.kind = .configurationError
  | _ => False

/-- The cause of a refusal has nothing to do with depth. -/
def SearchError.NotDeep (cause : SearchError) : Prop := cause.kind ≠ .configurationError

/-- A failure has nothing to do with depth. -/
def Failure.NotDeep (failure : Failure) : Prop := ¬failure.IsConfigurationError

theorem Failure.RefusedAs.notDeep {kind : ErrorKind} (hkind : kind ≠ .configurationError)
    {failure : Failure} (h : failure.RefusedAs kind) : failure.NotDeep := by
  cases failure with
  | refused cause => exact fun hdeep => hkind (h.symm.trans hdeep)
  | invalidFields => exact id
  | fault => exact id

theorem SearchError.notDeep_of_kind {kind : ErrorKind} {cause : SearchError}
    (h : cause.kind = kind) (hkind : kind ≠ .configurationError) : cause.NotDeep :=
  fun hdeep => hkind (h.symm.trans hdeep)

section

variable {α : Type} {ok : α → Prop} {kind : ErrorKind}

theorem Ends.refused {x : Except SearchError α} (h : Ends ok (fun err => err.kind = kind) x) :
    Ends ok (Failure.RefusedAs kind) (x.mapError .refused) :=
  Ends.mapError (h.mono (fun _ h => h) fun _ h => h)

theorem Ends.refused_notDeep {x : Except SearchError α} (h : Ends ok SearchError.NotDeep x) :
    Ends ok Failure.NotDeep (x.mapError .refused) :=
  Ends.mapError (h.mono (fun _ h => h) fun _ h => h)

theorem Ends.notDeep {x : Except Failure α} (h : Ends ok (Failure.RefusedAs kind) x)
    (hkind : kind ≠ .configurationError) : Ends ok Failure.NotDeep x :=
  h.mono (fun _ h => h) fun _ h => h.notDeep hkind

end

/-! ### Entities and tables -/

theorem Registry.ends_get (r : Registry) (name : String) :
    Ends (fun _ => True) (fun err => err.kind = .unknownEntity) (r.get name) := by
  rw [Registry.get]
  split
  · exact .result trivial
  · exact .failure rfl

theorem Catalog.ends_table (catalog : Catalog) (name : String) :
    Ends (fun _ => True) (fun err => err.kind = .unknownTable) (catalog.table name) := by
  rw [Catalog.table]
  split
  · exact .result trivial
  · exact .failure rfl

/-! ### Parameters

Whatever a source hands out, it is refused as invalid input or not at all. -/

section

variable {key : String}

mutual

theorem Value.ends_cleaned : ∀ v : Value,
    Ends (fun _ => True) (fun err => err.kind = .invalidInput) (v.cleaned key)
  | .null | .bool _ | .int _ | .float _ | .str _ | .map _ | .bag _ => .result trivial
  | .list items | .tuple items => (Value.ends_cleanedItems items).map
  | .bytes _ | .date _ | .datetime _ | .object => .failure rfl

theorem Value.ends_cleanedItems : ∀ items : List Value,
    Ends (fun _ => True) (fun err => err.kind = .invalidInput) (Value.cleanedItems key items)
  | [] => .result trivial
  | x :: xs => by
    rw [Value.cleanedItems]
    cases hx : x.cleaned key with
    | ok y => exact (Value.ends_cleanedItems xs).map
    | error err => exact .failure ((Value.ends_cleaned x).of_error hx)

end

end

namespace Bag

theorem ends_ofRawEntries (entries : List (String × Value)) :
    Ends (fun _ => True) (fun err => err.kind = .invalidInput) (ofRawEntries entries) :=
  Ends.foldlM_of_forall fun _ e _ => (Value.ends_cleaned e.2).map

theorem ends_ofTable (entries : List (Value × Value)) :
    Ends (fun _ => True) (fun err => err.kind = .invalidInput) (ofTable entries) := by
  refine Ends.foldlM_of_forall fun _ e _ => ?_
  split
  · exact (Value.ends_cleaned e.2).map
  · exact .failure rfl

theorem ends_putField (entries : List (String × Value)) (key : String) (value : Value) :
    Ends (fun _ => True) (fun err => err.kind = .invalidInput) (putField entries key value) := by
  unfold putField putPlain putItem putSubEntry
  split
  · split <;> first | exact .result trivial | exact .failure rfl
  · split <;> first | exact .result trivial | exact .failure rfl
  · split
    · split <;> first | exact .result trivial | exact .failure rfl
    · exact .failure rfl

theorem ends_ofQueryPairs (pairs : List (String × Value)) :
    Ends (fun _ => True) (fun err => err.kind = .invalidInput) (ofQueryPairs pairs) :=
  (Ends.foldlM_of_forall fun _ _ _ => ends_putField _ _ _).bind_of_forall ends_ofRawEntries

theorem ends_putPair (merge : Bool) (table : List (Value × Value)) (pair : Value) :
    Ends (fun _ => True) (Failure.RefusedAs .invalidInput) (putPair merge table pair) := by
  unfold putPair
  split
  · exact .failure trivial
  · split
    · exact .failure trivial
    · split
      · exact .result trivial
      · split
        · exact .result trivial
        · exact .failure rfl
  · exact .failure rfl

theorem ends_ofPairs (pairs : List Value) (merge : Bool) :
    Ends (fun _ => True) (Failure.RefusedAs .invalidInput) (ofPairs pairs merge) :=
  (Ends.foldlM_of_forall fun _ _ _ => ends_putPair _ _ _).bind_of_forall fun table =>
    (ends_ofTable table).refused

theorem ends_ofFieldPairs (pairs : List (Value × Value)) :
    Ends (fun _ => True) (Failure.RefusedAs .invalidInput) (ofFieldPairs pairs) := by
  refine (Ends.foldlM_of_forall fun entries p _ => ?_).bind_of_forall fun entries =>
    (ends_ofRawEntries entries).refused
  split
  · exact (ends_putField _ _ _).refused
  · exact .failure trivial

end Bag

namespace Source

theorem ends_bagOfValue (v : Value) :
    Ends (fun _ => True) (Failure.RefusedAs .invalidInput) (bagOfValue v) := by
  unfold bagOfValue
  split
  · exact .result trivial
  · exact .result trivial
  · exact (Bag.ends_ofTable _).refused
  · exact .result trivial
  · exact .result trivial
  · exact .failure rfl
  · exact .failure rfl
  · exact .failure rfl

theorem ends_toBag (source : Source) :
    Ends (fun _ => True) (Failure.RefusedAs .invalidInput) source.toBag := by
  cases source with
  | value v => exact ends_bagOfValue v
  | query text => exact (Bag.ends_ofQueryPairs _).refused
  | connection text => exact (Bag.ends_ofQueryPairs _).refused
  | pairs ps => exact Bag.ends_ofFieldPairs ps
  | items ps => exact Bag.ends_ofPairs ps false
  | foreign entries => exact (Bag.ends_ofTable entries).refused

theorem ends_searchInput (broadKey : String) (source : Source) :
    Ends (fun _ => True) (Failure.RefusedAs .invalidInput) (source.searchInput broadKey) := by
  unfold searchInput
  split
  · exact (Bag.ends_ofRawEntries _).refused
  · exact (Bag.ends_ofRawEntries _).refused
  · split
    · exact (Bag.ends_ofRawEntries _).refused
    · exact ends_bagOfValue _
  · exact ends_toBag _

end Source

theorem ends_requestedRelations (bag : Bag) :
    Ends (fun _ => True) (Failure.RefusedAs .invalidInput)
      ((requestedRelations bag).mapError .fault) :=
  Ends.mapError (Ends.intro (fun _ _ => trivial) fun _ _ => trivial)

/-! ### Ranges of time -/

theorem ZonedTime.ends_ofOffset (zone : Zone) (reading : LocalTime) (offset : Int) :
    Ends (fun _ => True) (Failure.RefusedAs .invalidInput)
      (ZonedTime.ofOffset zone reading offset) := by
  rw [ZonedTime.ofOffset]
  split
  · exact .failure trivial
  · split
    · exact .failure trivial
    · dsimp only
      split
      · exact .failure trivial
      · exact .result trivial

theorem ZonedTime.ends_ofTime (zone : Zone) (t : OffsetTime) :
    Ends (fun _ => True) (Failure.RefusedAs .invalidInput) (ZonedTime.ofTime zone t) := by
  rw [ZonedTime.ofTime]
  split
  · exact .result trivial
  · exact ends_ofOffset _ _ _

theorem Zone.ends_ofName (name : String) :
    Ends (fun _ => True) (Failure.RefusedAs .invalidInput) (Zone.ofName name) := by
  rw [Zone.ofName]
  split
  · exact .result trivial
  · split
    · exact .failure trivial
    · exact .failure rfl

namespace TimeRange

theorem ends_instant (zone : Zone) (origin : FreeForm.Origin) (v : Value) :
    Ends (fun _ => True) (Failure.RefusedAs .invalidInput) (instant zone origin v) := by
  unfold instant
  split
  · exact ZonedTime.ends_ofTime _ _
  · exact ZonedTime.ends_ofTime _ _
  · split
    · exact ZonedTime.ends_ofTime _ _
    · exact .failure rfl

/-- Whether a bag asks for a range of time. -/
def Asked (params : Bag) : Prop := ["date", "date_from", "datetime_from"].any params.filled = true

/-- The parameters that are read as times. -/
def timeKeys : List String := ["date", "date_from", "date_to", "datetime_from", "datetime_to"]

section

variable {params : Bag} {zone : Zone} {failed : Failure → Prop}

/-- The two ends of a range that is asked for fail as the times do that it reads. -/
theorem ends_ends_of {origin : FreeForm.Origin} (hasked : Asked params)
    (hread : ∀ key ∈ timeKeys, params.filled key = true →
      Ends (fun _ => True) failed (instant zone origin (params.get key))) (present : ZonedTime) :
    Ends (fun _ => True) failed (ends params zone origin present) := by
  unfold ends
  split
  next hdate => exact (hread "date" (by decide) hdate).bind_of_forall fun _ => .result trivial
  next hdate =>
    split
    next hfrom =>
      refine (hread "date_from" (by decide) hfrom).bind_of_forall fun _ => ?_
      split
      next hto => exact (hread "date_to" (by decide) hto).bind_of_forall fun _ => .result trivial
      next => exact .result trivial
    next hfrom =>
      -- Of the three parameters that ask for a range only this one is left.
      have hstart : params.filled "datetime_from" = true := by
        simpa [Asked, hdate, hfrom] using hasked
      refine (hread "datetime_from" (by decide) hstart).bind_of_forall fun _ => ?_
      split
      next hto =>
        exact (hread "datetime_to" (by decide) hto).bind_of_forall fun _ => .result trivial
      next => exact .result trivial

/-- **A range of time fails as its parts do**: its zone, the present there, and the times
that it reads. -/
theorem ends_resolve_of {zoneName : String} {clock : Clock}
    (h : Asked params →
      Ends (fun zone => Ends (fun _ => True) failed (presentIn zone clock) ∧
          ∀ key ∈ timeKeys, params.filled key = true →
            Ends (fun _ => True) failed (instant zone clock.origin (params.get key)))
        failed (Zone.ofName zoneName)) (usualColumn : String) (columns : List String) :
    Ends (fun _ => True) failed (resolve params usualColumn zoneName columns clock).value := by
  rw [resolve]
  dsimp only
  split
  next => exact .result trivial
  next hasked =>
    have hasked : Asked params := by rwa [Bool.not_eq_true', Bool.not_eq_false] at hasked
    split
    next => exact .result trivial
    next =>
      refine Ends.bind ((h hasked).mono (fun zone hzone => ?_) fun _ h => h)
      refine hzone.1.bind_of_forall fun present => ?_
      exact (ends_ends_of hasked hzone.2 present).bind_of_forall fun _ => .result trivial

end

theorem ends_presentIn (zone : Zone) (clock : Clock) :
    Ends (fun _ => True) (Failure.RefusedAs .invalidInput) (presentIn zone clock) := by
  rw [presentIn]
  cases presentOffset clock with
  | ok offset => exact ZonedTime.ends_ofOffset _ _ _
  | error fault => exact .failure trivial

theorem ends_resolve (params : Bag) (usualColumn zoneName : String) (columns : List String)
    (clock : Clock) :
    Ends (fun _ => True) (Failure.RefusedAs .invalidInput)
      (resolve params usualColumn zoneName columns clock).value := by
  refine ends_resolve_of (fun _ => ?_) usualColumn columns
  refine (Zone.ends_ofName zoneName).mono (fun zone _ => ?_) fun _ h => h
  exact ⟨ends_presentIn _ _, fun _ _ _ => ends_instant _ _ _⟩

end TimeRange

/-! ### Requests -/

namespace Compiler

theorem ends_prepare (c : Compiler) (entity : String) (source : Source) :
    Ends (fun _ => True) Failure.NotDeep (c.prepare entity source) := by
  refine ((c.registry.ends_get entity).refused.notDeep (by decide)).bind_of_forall fun _ => ?_
  refine ((source.ends_searchInput _).notDeep (by decide)).bind_of_forall fun bag => ?_
  exact ((ends_requestedRelations bag).notDeep (by decide)).bind_of_forall fun _ => .result trivial

theorem ends_prepareQuestion (c : Compiler) (entity : String) (source : Source)
    (ignoreBroad : Bool) :
    Ends (fun _ => True) Failure.NotDeep (c.prepareQuestion entity source ignoreBroad) := by
  refine ((c.registry.ends_get entity).refused.notDeep (by decide)).bind_of_forall fun _ => ?_
  refine (source.ends_toBag.notDeep (by decide)).bind_of_forall fun bag => ?_
  exact ((ends_requestedRelations _).notDeep (by decide)).bind_of_forall fun _ => .result trivial

end Compiler

end RelationalSearch
