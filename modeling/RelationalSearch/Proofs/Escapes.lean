import RelationalSearch.Console.Markup
import RelationalSearch.Proofs.Lookup
import RelationalSearch.Proofs.Refusals

/-!
# Failures that are no refusals

A search for the parameters of a table should have a result or be refused. There are three
places where it can fail otherwise, and this file shows that there is no fourth
(`RelationalSearch.Compiler.compile_refused_or_escapes`).

The first are the relations that are named for a broad search: whatever can be run
through is searched for texts, and a number or a truth value is not turned away although
it cannot be run through (`RelationalSearch.requestedRelations_eq_error_iff`).

The second is the range of time. A text that is no time is refused, but a text can be a
time and still have no counterpart in the zone of the entity: its offset is a day or more,
or it is so close to an end of the calendar that it leaves it on the way
(`RelationalSearch.ZonedTime.OutOfReach`). The present can have the same fate, or the
system may not know its own offset; and the name of the zone can be that of a folder of the
database. None of these is a matter of the parameters.

The third is the log. Its lines tell what the request holds, and a handler that writes on a
console refuses a line that cannot be read as marked up text.
-/

namespace RelationalSearch

/-! ### Refusals and other failures -/

/-- **A failure that is a refusal**, or one of the faults that are named. -/
inductive Failure.RefusedOr (escapes : Fault → Prop) : Failure → Prop
  | refused (cause : SearchError) : RefusedOr escapes (.refused cause)
  | fault {fault : Fault} (h : escapes fault) : RefusedOr escapes (.fault fault)

section

variable {α : Type} {ok : α → Prop} {escapes escapes' : Fault → Prop}

theorem Failure.RefusedOr.mono {failure : Failure} (h : failure.RefusedOr escapes)
    (hescapes : ∀ fault, escapes fault → escapes' fault) : failure.RefusedOr escapes' := by
  cases h with
  | refused cause => exact .refused cause
  | fault h => exact .fault (hescapes _ h)

/-- What can only be refused. -/
theorem Ends.mapError_refused {x : Except SearchError α} (h : ∀ a, x = .ok a → ok a) :
    Ends ok (Failure.RefusedOr escapes) (x.mapError .refused) :=
  Ends.mapError (Ends.intro h fun cause _ => .refused cause)

end

/-! ### Values in a bag -/

/-- The kinds of values that a table can bring into a bag. -/
def Value.isKept : Value → Bool
  | .tuple _ | .bag _ | .bytes _ | .date _ | .datetime _ | .object => false
  | _ => true

theorem Value.isKept_of_cleaned {key : String} {v w : Value} (h : v.cleaned key = .ok w) :
    w.isKept = true := by
  cases v with
  | null | bool | int | float | str | map | bag =>
    cases h
    rfl
  | list items | tuple items =>
    obtain ⟨ws, -, rfl⟩ := exists_of_map_ok h
    rfl
  | bytes | date | datetime | object => cases h

namespace Bag

variable {bag : Bag} {entries : List (Value × Value)} {key : String}

/-- A bag of a table holds values of these kinds only, and where it has no value there is
none. -/
theorem isKept_get (h : ofTable entries = .ok bag) (key : String) :
    (bag.get key).isKept = true := by
  have hinv : Ends (fun b : Bag => ∀ e ∈ b.entries, e.2.isKept = true) (fun _ => True)
      (ofTable entries) := by
    refine Ends.foldlM (fun _ (b : Bag) => ∀ e ∈ b.entries, e.2.isKept = true)
      (fun e he => absurd he List.not_mem_nil) fun _ x b _ hb => ?_
    split
    next name _ =>
      -- What is stored is what the cleaning has left.
      refine Ends.map (Ends.intro (fun form hform e he => ?_) fun _ _ => trivial)
      rcases mem_putEntry he with rfl | he
      · exact Value.isKept_of_cleaned hform
      · exact hb e he
    next => exact .failure trivial
  rw [get]
  cases hget : bag.get? key with
  | none => rfl
  | some v => exact hinv.of_ok h (key, v) (mem_of_get? hget)

/-- A parameter is found among those that are not blank unless it is. -/
theorem get?_nonBlank (b : Bag) (key : String) :
    b.nonBlank.get? key = (b.get? key).filter fun v => !v.isBlank := by
  cases hget : b.get? key with
  | none =>
    refine get?_of_not_mem fun hkey => ?_
    obtain ⟨v, hv⟩ := mem_keys.mp hkey
    rw [get?_of_mem (List.mem_filter.mp hv).1] at hget
    cases hget
  | some v =>
    by_cases hblank : v.isBlank = true
    · rw [Option.filter_some_neg (by simpa using hblank)]
      refine get?_of_not_mem fun hkey => ?_
      obtain ⟨w, hw⟩ := mem_keys.mp hkey
      obtain ⟨hentry, hfilled⟩ := List.mem_filter.mp hw
      cases hget.symm.trans (get?_of_mem hentry)
      simp [hblank] at hfilled
    · rw [Option.filter_some_pos (by simpa using hblank)]
      exact get?_of_mem (List.mem_filter.mpr ⟨mem_of_get? hget, by simpa using hblank⟩)

/-- A filled parameter is not blank, so leaving the blank ones out changes nothing of
it. -/
theorem get?_nonBlank_of_filled (h : bag.nonBlank.filled key = true) :
    bag.nonBlank.get? key = bag.get? key := by
  rw [filled, get?_nonBlank] at h
  rw [get?_nonBlank]
  cases hget : bag.get? key with
  | none => rfl
  | some v =>
    by_cases hblank : v.isBlank = true
    · rw [hget, Option.filter_some_neg (by simpa using hblank)] at h
      cases h
    · exact Option.filter_some_pos (by simpa using hblank)

theorem filled_of_nonBlank (h : bag.nonBlank.filled key = true) : bag.filled key = true := by
  rw [filled, get?_nonBlank_of_filled h] at h
  exact h

theorem isKept_get_nonBlank (h : ofTable entries = .ok bag) (key : String) :
    (bag.nonBlank.get key).isKept = true := by
  have hkept := isKept_get h key
  rw [get] at hkept ⊢
  rw [get?_nonBlank]
  cases hget : bag.get? key with
  | none => rfl
  | some v =>
    rw [hget] at hkept
    by_cases hblank : v.isBlank = true
    · rw [Option.filter_some_neg (by simpa using hblank)]
      rfl
    · rw [Option.filter_some_pos (by simpa using hblank)]
      exact hkept

theorem get_nonBlank_of_filled (h : bag.nonBlank.filled key = true) :
    bag.nonBlank.get key = bag.get key := by
  rw [get, get, get?_nonBlank_of_filled h]

end Bag

/-! ### Relations for a broad search -/

/-- **The values that name no relations and are not said to**: numbers other than zero,
and the true truth value. -/
inductive Value.IsBareNumber : Value → Prop
  | truth : IsBareNumber (.bool true)
  | whole {n : Int} (h : n ≠ 0) : IsBareNumber (.int n)
  | floating {x : Binary64} (h : x.equalsInt 0 = false) : IsBareNumber (.float x)

/-- They count as given and cannot be run through. -/
theorem Value.isBareNumber_iff {v : Value} (hkept : v.isKept = true) :
    v.IsBareNumber ↔ v.isTruthy = true ∧ Bag.members? v = none := by
  constructor
  · intro h
    cases h with
    | truth => exact ⟨rfl, rfl⟩
    | whole hn => exact ⟨by simpa [isTruthy] using hn, rfl⟩
    | floating hx => exact ⟨by simpa [isTruthy] using hx, rfl⟩
  · rintro ⟨htruthy, hmembers⟩
    cases v with
    | null => cases htruthy
    | bool b =>
      cases b with
      | false => cases htruthy
      | true => exact .truth
    | int n => exact .whole (by simpa [isTruthy] using htruthy)
    | float x => exact .floating (by simpa [isTruthy] using htruthy)
    | str | list | map => cases hmembers
    | tuple | bag | bytes | date | datetime | object => cases hkept

/-- **Reading the relations for a broad search fails** just for such a value. -/
theorem requestedRelations_eq_error_iff {bag : Bag}
    (hkept : (bag.get broadRelationsKey).isKept = true) {fault : Fault} :
    requestedRelations bag = .error fault ↔
      fault = .wrongKind ∧ (bag.get broadRelationsKey).IsBareNumber := by
  rw [requestedRelations, Value.isBareNumber_iff hkept]
  split
  next s hs =>
    rw [hs]
    exact iff_of_false (fun h => by cases h) fun h => by cases h.2.2
  next v hv =>
    split
    next hfalse => exact iff_of_false (fun h => by cases h) fun h => by simp [h.2.1] at hfalse
    next htrue =>
      have htruthy : (bag.get broadRelationsKey).isTruthy = true := by simpa using htrue
      split
      next members hmembers =>
        exact iff_of_false (fun h => by cases h) fun h => by cases hmembers.symm.trans h.2.2
      next hmembers =>
        constructor
        · intro h
          cases h
          exact ⟨rfl, htruthy, hmembers⟩
        · rintro ⟨rfl, -, -⟩
          rfl

/-! ### Times -/

/-- **How a time with an offset fails to have a counterpart in a zone**: an offset of a
day or more is impossible, and otherwise the time leaves the calendar, in universal time
or in the zone. -/
inductive ZonedTime.OutOfReach (zone : Zone) (reading : LocalTime) (offset : Int) : Fault → Prop
  | impossible (h : offset ≤ -86400 ∨ 86400 ≤ offset) : OutOfReach zone reading offset .badValue
  | universal (h : reading.shift? (-offset) = none) : OutOfReach zone reading offset .outOfCalendar
  | there {universal : LocalTime} (h : reading.shift? (-offset) = some universal)
      (hthere : universal.shift?
        (zone.offsetAtMoment universal.date.year universal.seconds).1 = none) :
      OutOfReach zone reading offset .outOfCalendar

theorem ZonedTime.ends_ofOffset_or (zone : Zone) (reading : LocalTime) (offset : Int) :
    Ends (fun _ => True) (Failure.RefusedOr (OutOfReach zone reading offset))
      (ofOffset zone reading offset) := by
  rw [ofOffset]
  split
  next himpossible => exact .failure (.fault (.impossible (by simpa using himpossible)))
  next =>
    split
    next hnone => exact .failure (.fault (.universal hnone))
    next universal hsome =>
      dsimp only
      split
      next hthere => exact .failure (.fault (.there hsome hthere))
      next => exact .result trivial

namespace TimeRange

/-- **The times that have to be brought into the zone**: the present, and what the text of
a filled parameter is read as, when this has an offset. -/
inductive Converts (params : Bag) (clock : Clock) : LocalTime → Int → Prop
  | present {offset : Int} (hoffset : presentOffset clock = .ok offset) :
      Converts params clock clock.now.reading offset
  | parameter {key : String} {reading : LocalTime} {offset : Int} (hkey : key ∈ timeKeys)
      (hfilled : params.filled key = true)
      (hread : FreeForm.read? (params.get key).shown clock.origin =
        some ⟨reading, some offset⟩) : Converts params clock reading offset

/-- **How a range of time that is asked for fails without being refused**: its zone is a
folder of the database, the present has no offset that is known, or a time has no
counterpart in the zone. -/
inductive Escapes (params : Bag) (zoneName : String) (clock : Clock) : Fault → Prop
  | folder (hasked : Asked params) (hzone : ZoneTable.find? zoneName = none)
      (hfolder : ZoneTable.isFolder zoneName = true) : Escapes params zoneName clock .folder
  | offset {zone : Zone} {fault : Fault} (hasked : Asked params)
      (hzone : ZoneTable.find? zoneName = some zone)
      (hoffset : presentOffset clock = .error fault) : Escapes params zoneName clock fault
  | time {zone : Zone} {reading : LocalTime} {offset : Int} {fault : Fault}
      (hasked : Asked params) (hzone : ZoneTable.find? zoneName = some zone)
      (htime : Converts params clock reading offset)
      (hreach : ZonedTime.OutOfReach zone reading offset fault) :
      Escapes params zoneName clock fault

variable {params : Bag} {zoneName : String} {zone : Zone} {clock : Clock}

theorem ends_ofName_or (hasked : Asked params) :
    Ends (fun zone => ZoneTable.find? zoneName = some zone)
      (Failure.RefusedOr (Escapes params zoneName clock)) (Zone.ofName zoneName) := by
  rw [Zone.ofName]
  split
  next zone hzone => exact .result hzone
  next hnone =>
    split
    next hfolder => exact .failure (.fault (.folder hasked hnone hfolder))
    next => exact .failure (.refused _)

/-- The present in the zone. -/
theorem ends_presentIn_or (hasked : Asked params)
    (hzone : ZoneTable.find? zoneName = some zone) :
    Ends (fun _ => True) (Failure.RefusedOr (Escapes params zoneName clock))
      (presentIn zone clock) := by
  rw [presentIn]
  cases hoffset : presentOffset clock with
  | error fault => exact .failure (.fault (.offset hasked hzone hoffset))
  | ok offset =>
    refine (ZonedTime.ends_ofOffset_or zone clock.now.reading offset).mono (fun _ h => h)
      fun _ h => ?_
    exact h.mono fun _ hreach => .time hasked hzone (.present hoffset) hreach

/-- The time that a filled parameter means. -/
theorem ends_instant_or (hasked : Asked params) (hzone : ZoneTable.find? zoneName = some zone)
    {key : String} (hkey : key ∈ timeKeys) (hfilled : params.filled key = true)
    (hkept : (params.get key).isKept = true) :
    Ends (fun _ => True) (Failure.RefusedOr (Escapes params zoneName clock))
      (instant zone clock.origin (params.get key)) := by
  unfold instant
  split
  next t ht =>
    rw [ht] at hkept
    cases hkept
  next d hd =>
    rw [hd] at hkept
    cases hkept
  next =>
    split
    next t hread =>
      -- Without an offset it is a reading of the zone's own clock, and nothing is converted.
      rcases t with ⟨reading, _ | offset⟩
      · exact .result trivial
      · refine (ZonedTime.ends_ofOffset_or zone reading offset).mono (fun _ h => h) fun _ h => ?_
        exact h.mono fun _ hreach => .time hasked hzone (.parameter hkey hfilled hread) hreach
    next => exact .failure (.refused _)

/-- **A range of time is found, there is none, or its parameters are refused**, unless it
fails in one of these ways. -/
theorem ends_resolve_or (hkept : ∀ key, (params.get key).isKept = true)
    (usualColumn : String) (columns : List String) :
    Ends (fun _ => True) (Failure.RefusedOr (Escapes params zoneName clock))
      (resolve params usualColumn zoneName columns clock).value := by
  refine ends_resolve_of (fun hasked => ?_) usualColumn columns
  refine (ends_ofName_or hasked).mono (fun zone hzone => ?_) fun _ h => h
  refine ⟨ends_presentIn_or hasked hzone, fun key hkey hfilled => ?_⟩
  exact ends_instant_or hasked hzone hkey hfilled (hkept key)

theorem Asked.of_nonBlank {bag : Bag} (h : Asked bag.nonBlank) : Asked bag := by
  obtain ⟨key, hkey, hfilled⟩ := List.any_eq_true.mp h
  exact List.any_eq_true.mpr ⟨key, hkey, Bag.filled_of_nonBlank hfilled⟩

/-- Blank parameters have no part in it. -/
theorem Escapes.of_nonBlank {bag : Bag} {fault : Fault}
    (h : Escapes bag.nonBlank zoneName clock fault) : Escapes bag zoneName clock fault := by
  cases h with
  | folder hasked hzone hfolder => exact .folder hasked.of_nonBlank hzone hfolder
  | offset hasked hzone hoffset => exact .offset hasked.of_nonBlank hzone hoffset
  | time hasked hzone htime hreach =>
    refine .time hasked.of_nonBlank hzone ?_ hreach
    cases htime with
    | present hoffset => exact .present hoffset
    | parameter hkey hfilled hread =>
      rw [Bag.get_nonBlank_of_filled hfilled] at hread
      exact .parameter hkey (Bag.filled_of_nonBlank hfilled) hread

end TimeRange

/-! ### Searches -/

namespace Compiler

/-- **How a search fails without being refused**: a number stands where relations are
named, or its range of time fails so. -/
inductive Escapes (c : Compiler) (catalog : Catalog) (e : Entity) (bag : Bag)
    (clock : Clock) : Fault → Prop
  | relations (h : (bag.get broadRelationsKey).IsBareNumber) :
      Escapes c catalog e bag clock .wrongKind
  | range {table : Table} {fault : Fault} (htable : catalog.table e.table = .ok table)
      (h : TimeRange.Escapes bag (orUsual e.spec.timeZone c.settings.defaultTimeZone) clock fault) :
      Escapes c catalog e bag clock fault

variable {c : Compiler} {catalog : Catalog} {entity : String} {entries : List (Value × Value)}
  {options : SearchOptions} {clock : Clock}

/-- The bag of a table is all that a search for its parameters has. -/
theorem searchInput_table (broadKey : String) (entries : List (Value × Value)) :
    (Source.value (.map entries)).searchInput broadKey =
      (Bag.ofTable entries).mapError .refused := rfl

/-- A range of time that a request for the parameters of a table asks for. -/
theorem ends_requestRange_or {request : Request} {table : Table}
    (hbag : Bag.ofTable entries = .ok request.bag)
    (htable : catalog.table request.target.table = .ok table) :
    Ends (fun _ => True)
      (Failure.RefusedOr (c.Escapes catalog request.target request.bag clock))
      (c.requestRange clock request table) := by
  rw [requestRange, scopedTo_unnamed]
  refine (TimeRange.ends_resolve_or (Bag.isKept_get_nonBlank hbag) _ _).mono (fun _ h => h)
    fun _ h => h.mono fun fault hescapes => ?_
  exact .range htable hescapes.of_nonBlank

/-- The request for the parameters of a table. -/
theorem ends_prepare_or :
    Ends (fun request : Request => c.registry.get entity = .ok request.target ∧
        Bag.ofTable entries = .ok request.bag)
      (Failure.RefusedOr fun fault => ∃ e bag, c.registry.get entity = .ok e ∧
        Bag.ofTable entries = .ok bag ∧ c.Escapes catalog e bag clock fault)
      (c.prepare entity (.value (.map entries))) := by
  refine Ends.bind (Ends.mapError_refused fun e he => ?_)
  rw [searchInput_table]
  refine Ends.bind (Ends.mapError_refused fun bag hbag => ?_)
  cases hrequested : requestedRelations bag with
  | ok requested => exact .result ⟨he, hbag⟩
  | error fault =>
    obtain ⟨rfl, hnumber⟩ :=
      (requestedRelations_eq_error_iff (Bag.isKept_get hbag broadRelationsKey)).mp hrequested
    exact .failure (.fault ⟨e, bag, he, hbag, .relations hnumber⟩)

/-- A search for the parameters of a table ends with a result or a refusal, or it fails in
one of these ways. -/
theorem ends_compile_or :
    Ends (fun _ => True)
      (Failure.RefusedOr fun fault => ∃ e bag, c.registry.get entity = .ok e ∧
        Bag.ofTable entries = .ok bag ∧ c.Escapes catalog e bag clock fault)
      (c.compile catalog entity (.value (.map entries)) options clock) := by
  rw [compile_eq]
  refine Ends.bind (ends_prepare_or.mono (fun request hrequest => ?_) fun _ h => h)
  obtain ⟨hentity, hbag⟩ := hrequest
  refine Ends.bind (Ends.mapError_refused fun walked _ => ?_)
  refine Ends.bind (Ends.mapError_refused fun table htable => ?_)
  refine ((ends_requestRange_or hbag htable).mono (fun _ h => h) fun _ h =>
    h.mono fun fault hescapes => ?_).bind_of_forall fun _ => .result trivial
  exact ⟨request.target, request.bag, hentity, hbag, hescapes⟩

/-- **How a search with a log fails without being refused**: as a search does without one, or
since a line that it logs is refused by the log. -/
inductive EscapesOn (c : Compiler) (log : Log) (catalog : Catalog) (entity : String)
    (entries : List (Value × Value)) (options : SearchOptions) (clock : Clock) : Fault → Prop
  | search {e : Entity} {bag : Bag} {fault : Fault} (hentity : c.registry.get entity = .ok e)
      (hbag : Bag.ofTable entries = .ok bag) (h : c.Escapes catalog e bag clock fault) :
      EscapesOn c log catalog entity entries options clock fault
  | line {line : LogLine}
      (hline : line ∈ (c.narrate catalog entity (.value (.map entries)) options clock).lines)
      (hrefused : log.refuses line = true) :
      EscapesOn c log catalog entity entries options clock .unbegunStyle

/-- A log that refuses none of the lines changes nothing. -/
theorem compileOn_eq {log : Log} {source : Source}
    (h : ∀ line ∈ (c.narrate catalog entity source options clock).lines,
      log.refuses line = false) :
    c.compileOn log catalog entity source options clock =
      c.compile catalog entity source options clock := by
  rw [compileOn, Narrated.value_through, value_narrate, if_neg]
  rw [List.any_eq_true]
  rintro ⟨line, hline, hrefused⟩
  rw [h line hline] at hrefused
  cases hrefused

/-- A search with a log ends as one without, or a line of it is refused. -/
theorem ends_compileOn_or (log : Log) :
    Ends (fun _ => True)
      (Failure.RefusedOr (c.EscapesOn log catalog entity entries options clock))
      (c.compileOn log catalog entity (.value (.map entries)) options clock) := by
  rw [compileOn, Narrated.value_through, value_narrate]
  split
  next hrefused =>
    obtain ⟨line, hline, hrefused⟩ := List.any_eq_true.mp hrefused
    exact .failure (.fault (.line hline hrefused))
  next =>
    refine ends_compile_or.mono (fun _ h => h) fun _ h => h.mono fun fault hescapes => ?_
    obtain ⟨e, bag, hentity, hbag, hescapes⟩ := hescapes
    exact .search hentity hbag hescapes

/-- On a console that is told everything, the name of an unknown column is enough. -/
example :
    Pond.compiler.compileOn ⟨LogLevel.debug.rank, Console.handler⟩ Pond.catalog "Pond"
      (.value (.map [(.str "sort", .str "[/x]")])) SearchOptions.plain Pond.clock =
      .error (.fault .unbegunStyle) := by
  refine error_of_map_error (f := fun _ => ()) ?_
  decide +kernel

end Compiler

end RelationalSearch
