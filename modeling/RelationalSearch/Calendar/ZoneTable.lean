import RelationalSearch.Calendar.ZoneTable.Africa
import RelationalSearch.Calendar.ZoneTable.AmericaFirst
import RelationalSearch.Calendar.ZoneTable.AmericaSecond
import RelationalSearch.Calendar.ZoneTable.Asia
import RelationalSearch.Calendar.ZoneTable.Europe
import RelationalSearch.Calendar.ZoneTable.Fixed
import RelationalSearch.Calendar.ZoneTable.Names
import RelationalSearch.Calendar.ZoneTable.Oceans
import RelationalSearch.Error

/-!
# Zones by name

Zones are found by their names in the time zone database, letter for letter. A
name of the form `Region/Place` makes `Region` the name of a folder of the
database, which is no zone and no unknown name either.
-/

namespace RelationalSearch

namespace ZoneTable

/-- All rows of the database. -/
def rows : List ZoneRow :=
  fixed ++ africa ++ americaFirst ++ americaSecond ++ asia ++ europe ++ oceans

/-- The name under which the database has the zone of a name. -/
def ownName (name : String) : String :=
  ((furtherNames.find? fun e => e.2.contains name).map Prod.fst).getD name

/-- The zone of a name. -/
def find? (name : String) : Option Zone :=
  let own := ownName name
  (rows.find? fun r => r.name == own).map ZoneRow.toZone

/-- All names of zones. -/
def names : List String := rows.map ZoneRow.name ++ furtherNames.flatMap Prod.snd

/-- Whether a name is a folder of the database. -/
def isFolder (name : String) : Bool :=
  !name.isEmpty && names.any fun n => n.startsWith (name ++ "/")

end ZoneTable

/-- The zone of a name, or why there is none. -/
def Zone.ofName (name : String) : Except Failure Zone :=
  match ZoneTable.find? name with
  | some z => .ok z
  | none =>
    if ZoneTable.isFolder name then .error (.fault .folder)
    else .error (.refused (.unknownZone name))

end RelationalSearch
