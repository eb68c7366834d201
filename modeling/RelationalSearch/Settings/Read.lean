import RelationalSearch.Checked
import RelationalSearch.Error
import RelationalSearch.Settings
import RelationalSearch.Value.Equality
import RelationalSearch.Value.Structured

/-!
# Reading settings

Settings are given as named values, and through environment variables whose
names begin with `GRANULAR_`, in any case. A setting that is a list or a table is
written in a variable as an exchange text, of which `null` gives nothing. Where
both give a setting, the named value counts; two tables are merged, entry by entry.

Every value must have the form of its setting: `Settings.read` gives the settings
or every place where the form is wrong.
-/

namespace RelationalSearch

namespace Settings

/-- The names of the settings, and whether each is written as an exchange text in
a variable. -/
def names : List (String × Bool) :=
  [("q_alias", false), ("allowed_drivers", true), ("non_string_categories", true),
   ("type_overrides", true), ("max_depth", false), ("default_time_zone", false),
   ("default_time_column", false), ("log_level", false)]

/-- The values that environment variables give, by setting. -/
def ofEnvironment (environment : List (String × String)) : Except Fault (List (String × Value)) :=
  names.foldlM
    (fun values n =>
      match (environment.filter fun v => Text.toSmall v.1 == "granular_" ++ n.1).getLast? with
      | none => .ok values
      | some v =>
        if n.2 then
          match Exchange.read? v.2 with
          | some .null => .ok values
          | some x => .ok (values ++ [(n.1, x.toValue)])
          | none => .error .brokenSetting
        else .ok (values ++ [(n.1, .str v.2)]))
    []

/-- Puts one value over another: tables are merged, to a depth of `fuel`. -/
def overlay : (fuel : Nat) → (lower upper : Value) → Value
  | 0, _, upper => upper
  | fuel + 1, .map lower, .map upper =>
    .map (upper.foldl
      (fun table e =>
        match Value.lookup table e.1 with
        | some old => Value.put table e.1 (overlay fuel old e.2)
        | none => table ++ [e])
      lower)
  | _, _, upper => upper

/-- The value of a setting, if it is given: settings have at most two levels of
tables. -/
def given? (values environment : List (String × Value)) (name : String) : Option Value :=
  match values.lookup name, environment.lookup name with
  | some upper, some lower => some (overlay 2 lower upper)
  | some v, none => some v
  | none, v => v

/-- A key that is not blank, without white space around it. -/
def checkedBroadKey (place : String) (v : Value) : Checked { s : String // Text.isBlank s = false } :=
  match Checked.text place v with
  | .ok s =>
    if h : Text.isBlank (Text.trim s) = false then .ok ⟨Text.trim s, h⟩
    else Checked.wrong place "value_error"
  | .error es => .error es

/-- A depth that is not zero. -/
def checkedDepth (place : String) (v : Value) : Checked { n : Nat // 0 < n } :=
  match Checked.whole place v with
  | .ok n => if h : 0 < n.toNat then .ok ⟨n.toNat, h⟩ else Checked.wrong place "value_error"
  | .error es => .error es

/-- The settings of named values and environment variables. -/
def read (values : List (String × Value)) (environment : List (String × String)) :
    Except Failure Settings := do
  let environment ← (ofEnvironment environment).mapError .fault
  let field := fun {α : Type} (name : String) (check : String → Value → Checked α) (default : α) =>
    match given? values environment name with
    | some v => check name v
    | none => .ok default
  let broadKey := field "q_alias" checkedBroadKey ⟨usual.broadKey, usual.broadKey_nonblank⟩
  let drivers := field "allowed_drivers" Checked.texts usual.allowedDrivers
  let categories := field "non_string_categories" (Checked.table · Checked.texts)
    usual.nonStringCategories
  let overrides := field "type_overrides" (Checked.table · (Checked.table · Checked.text))
    usual.typeOverrides
  let depth := field "max_depth" checkedDepth ⟨usual.maxDepth, usual.maxDepth_pos⟩
  let zone := field "default_time_zone" Checked.text usual.defaultTimeZone
  let column := field "default_time_column" Checked.text usual.defaultTimeColumn
  let level := field "log_level" Checked.text usual.logLevel
  match broadKey, drivers, categories, overrides, depth, zone, column, level with
  | .ok a, .ok d, .ok c, .ok o, .ok n, .ok z, .ok t, .ok l =>
    return ⟨a.1, d, c, o, n.1, z, t, l, a.2, n.2⟩
  | _, _, _, _, _, _, _, _ =>
    throw (.invalidFields (broadKey.complaints ++ drivers.complaints ++ categories.complaints
      ++ overrides.complaints ++ depth.complaints ++ zone.complaints ++ column.complaints
      ++ level.complaints))

end Settings

end RelationalSearch
