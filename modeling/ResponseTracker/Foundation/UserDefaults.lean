import ResponseTracker.Foundation.TimeZone

/-!
# User defaults

The two entries the program keeps beside its database. A manual grant is stored
as a dictionary of untyped values, so what it holds is only known after a cast.
Archiving a list of dictionaries and reading it back is the identity; stored
data may also be no such archive.
-/

namespace ResponseTracker

/-- A value of Swift's `Any`, as far as the program casts it. -/
inductive AnyValue where
  | date (value : Date)
  | int (value : Int)
  | other
deriving DecidableEq

def AnyValue.asDate? : AnyValue → Option Date
  | .date value => some value
  | _ => none

def AnyValue.asInt? : AnyValue → Option Int
  | .int value => some value
  | _ => none

/-- A dictionary `[String: Any]`. -/
abbrev PresetEntry := List (String × AnyValue)

namespace PresetEntry

/-- `entry[key] as? Date` -/
def date? (entry : PresetEntry) (key : String) : Option Date :=
  (entry.lookup key).bind AnyValue.asDate?

/-- `entry[key] as? Int` -/
def int? (entry : PresetEntry) (key : String) : Option Int :=
  (entry.lookup key).bind AnyValue.asInt?

/-- The dictionary of a manual grant. -/
def grant (date : Date) (points : Int) : PresetEntry :=
  [("date_added", .date date), ("points", .int points)]

/-- The date and the points of a dictionary that holds both. -/
def grant? (entry : PresetEntry) : Option (Date × Int) := do
  let date ← entry.date? "date_added"
  let points ← entry.int? "points"
  some (date, points)

end PresetEntry

/-- Data stored under a key: the archive of a list of dictionaries, or anything else. -/
inductive StoredData where
  | archive (entries : List PresetEntry)
  | unreadable

def StoredData.unarchive? : StoredData → Option (List PresetEntry)
  | .archive entries => some entries
  | .unreadable => none

/-- The entries `preset_points` and `last_point_reset`. -/
@[ext]
structure UserDefaults where
  presetPoints : Option StoredData := none
  lastPointReset : Option Date := none

end ResponseTracker
