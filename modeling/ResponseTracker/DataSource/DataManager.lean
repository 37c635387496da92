import ResponseTracker.Realm.Tables
import ResponseTracker.Std.Transaction
import Mathlib.Data.List.Sort

/-!
# The data manager

Every operation of `DataManager` on the two stores. An operation answers the
stores it leaves and the invocations of its callback in order, or `none` when
an exception ends the process. Whether a commit succeeds and what the clock
reads are inputs.

The closures handed to `Realm.write` invoke the callback themselves, before the
outcome of the commit is known; the `catch` branch then invokes it again.
-/

namespace ResponseTracker

/-- The errors a callback can carry. -/
inductive DataError where
  | alreadyExists
  | errorReadingData
  | errorWritingData
  | errorClearData
  | errorExportingData
  | errorChangingName
deriving DecidableEq

/-- The text an alert shows for an error. -/
def DataError.message : DataError → String
  | .alreadyExists => "Emergency type already exists"
  | .errorReadingData => "Error reading data"
  | .errorWritingData => "Data could not be saved!"
  | .errorClearData => "Data could not be cleared"
  | .errorExportingData => "Error exporting data"
  | .errorChangingName => "Emergency type name could not be changed"

/-- One invocation of a `DataOperationSuccessBlock`. -/
structure Callback where
  success : Bool
  error : Option DataError
deriving DecidableEq

/-- The error Realm throws from a commit. -/
inductive SwiftError where
  | commitFailed

/-- The opened Realm: the committed tables and those of an open write transaction. -/
abbrev Realm := Transactional Tables

/-- The database and the user defaults. -/
@[ext]
structure Stores where
  defaultRealm : Realm
  defaults : UserDefaults

namespace Stores

/-- The tables visible through `defaultRealm`. -/
def tables (stores : Stores) : Tables := stores.defaultRealm.visible

/-- The stores before the first launch. -/
def empty : Stores where
  defaultRealm := ⟨.empty, none⟩
  defaults := {}

@[simp] theorem tables_closed (contents : Tables) (defaults : UserDefaults) :
    (⟨⟨contents, none⟩, defaults⟩ : Stores).tables = contents := rfl

@[simp] theorem tables_open (contents staged : Tables) (defaults : UserDefaults) :
    (⟨⟨contents, some staged⟩, defaults⟩ : Stores).tables = staged := rfl

end Stores

namespace DataManager

/-! ## User defaults -/

/-- The stored manual grants; none if the data is absent or cannot be unarchived. -/
def getPresetPoints (defaults : UserDefaults) : List PresetEntry :=
  match defaults.presetPoints.bind StoredData.unarchive? with
  | some points => points
  | none => []

/-- Store the instant of a reset. -/
def setLastClearPoints (date : Date) (defaults : UserDefaults) : UserDefaults :=
  { defaults with lastPointReset := some date }

/-- The instant of the last reset, if there was one. -/
def getLastClearPoints (defaults : UserDefaults) : Option Date := defaults.lastPointReset

/-- Remove the manual grants. -/
def clearPresetPoints (defaults : UserDefaults) : UserDefaults :=
  { defaults with presetPoints := none }

/-- `clearPoints()`, the reset: the grants are removed and the clock is stored,
while the responses stay. -/
def clearPoints (now : Date) (stores : Stores) : Stores :=
  { stores with defaults := setLastClearPoints now (clearPresetPoints stores.defaults) }

/-- Archive the grants anew with one more, dated now. No callback is involved and
nothing can fail. -/
def manuallyAdd (now : Date) (points : Int) (stores : Stores) : Stores :=
  let totalPreset := getPresetPoints stores.defaults ++ [PresetEntry.grant now points]
  { stores with defaults := { stores.defaults with presetPoints := some (.archive totalPreset) } }

/-! ## Counting -/

/-- The number of responses matching `date >= first AND date <= last`. -/
def countBetween (first last : Date) (responses : List Response) : Int :=
  (responses.filter fun response => decide (response.date ≥ first ∧ response.date ≤ last)).length

/-- The loop over the manual grants. An entry without a date or points ends it. -/
def countGrants (startOfMonth startOfPreviousMonth : Date) (totals : Points) :
    List PresetEntry → Points
  | [] => totals
  | entry :: rest =>
      match entry.date? "date_added", entry.int? "points" with
      | some date, some points =>
          let yearlyResponses :=
            if date ≥ startOfMonth then totals.currentYear + points else totals.currentYear
          let monthyResponse :=
            if date ≥ startOfMonth then totals.currentMonth + points else totals.currentMonth
          let previousMonth :=
            if date ≥ startOfPreviousMonth ∧ date < startOfMonth then totals.previousMonth + points
            else totals.previousMonth
          let allResponsesCount := totals.all + points
          countGrants startOfMonth startOfPreviousMonth
            ⟨yearlyResponses, monthyResponse, previousMonth, allResponsesCount⟩ rest
      | _, _ => totals

/-- The three clock readings are those of `startOfYear`, `startOfPreviousMonth`
and `startOfMonth`. -/
def loadPoints (device : Device) (defaults : UserDefaults) (tables : Tables)
    (yearClock previousMonthClock monthClock : Date) : Points :=
  let lastReset := getLastClearPoints defaults
  let startOfYear := clamped lastReset (startOfYear device.timeZone yearClock)
  let startOfPreviousMonth :=
    clamped lastReset (startOfPreviousMonth device.timeZone previousMonthClock)
  let startOfMonth := clamped lastReset (startOfMonth device.timeZone monthClock)
  let totals := countGrants startOfMonth startOfPreviousMonth {} (getPresetPoints defaults)
  let allResponses := tables.responses.map ResponseRow.value
  { currentYear := totals.currentYear + countSince startOfYear allResponses
    currentMonth := totals.currentMonth + countSince startOfMonth allResponses
    previousMonth := totals.previousMonth +
      countBetween startOfPreviousMonth startOfMonth allResponses
    all := totals.all + allResponses.length }

/-- `loadPoints` with all its clock readings at one instant. -/
def getPoints (device : Device) (stores : Stores) (now : Date) : Points :=
  loadPoints device stores.defaults stores.tables now now now

/-! ## Emergency types -/

/-- An emergency's points in the current month, which order the list. -/
def monthPoints (device : Device) (defaults : UserDefaults) (tables : Tables) (now : Date)
    (row : EmergencyRow) : Int :=
  ((tables.emergencyAt row).getPoints device defaults now now).currentMonth

/-- The emergencies sorted by points in the current month, a stable sort. -/
def getEmergencyTypes (device : Device) (defaults : UserDefaults) (tables : Tables) (now : Date) :
    List EmergencyRow :=
  tables.emergencies.insertionSort fun emergency1 emergency2 =>
    monthPoints device defaults tables now emergency1 ≥
      monthPoints device defaults tables now emergency2

/-- Whether the list has an emergency of this type. -/
def alreadyExists (device : Device) (defaults : UserDefaults) (tables : Tables) (now : Date)
    (newType : String) : Bool :=
  ((getEmergencyTypes device defaults tables now).filter fun emergency =>
    device.sameText emergency.type newType).length != 0

/-! ## The last response -/

/-- The last row of the responses table, whatever its date. -/
def loadLastResponse (tables : Tables) : Option ResponseRow := tables.responses.getLast?

/-- `getLastResponse()`, which only loads. -/
def getLastResponse (tables : Tables) : Option ResponseRow := loadLastResponse tables

/-! ## Mutations -/

/-- `callback(true, nil)` -/
def succeeded : Callback := ⟨true, none⟩

/-- `do { try defaultRealm.write { … } } catch { callback(…) }` -/
def performWrite (commits : Bool)
    (block : Tables → Option (Tables × List Callback × Except SwiftError PUnit))
    (failure : Callback) (stores : Stores) : Option (Stores × List Callback) := do
  let (realm, calls, outcome) ← stores.defaultRealm.write commits .commitFailed block
  match outcome with
  | .ok _ => some ({ stores with defaultRealm := realm }, calls)
  | .error _ => some ({ stores with defaultRealm := realm }, calls ++ [failure])

/-- Add an emergency unless its type is taken. The `catch` branch reports success with an error. -/
def addEmergency (device : Device) (now : Date) (emergency : EmergencyRef) (commits : Bool)
    (stores : Stores) : Option (Stores × List Callback) :=
  performWrite commits (fun tables => do
    let newType ← tables.typeOf emergency
    if alreadyExists device stores.defaults tables now newType then
      some (tables, [⟨false, some .alreadyExists⟩], .ok ⟨⟩)
    else
      let tables ← tables.addEmergency emergency
      some (tables, [succeeded], .ok ⟨⟩)) ⟨true, some .errorWritingData⟩ stores

/-- Append a response to an emergency's list, then add it to the database, where by now it is. -/
def addResponse (response : ResponseRef) (emergency : RowKey) (commits : Bool) (stores : Stores) :
    Option (Stores × List Callback) :=
  performWrite commits (fun tables => do
    let (tables, key) ← tables.append emergency response
    let (tables, _) ← tables.addResponse (.managed key)
    some (tables, [succeeded], .ok ⟨⟩)) ⟨false, some .errorWritingData⟩ stores

/-- Unlink a response from the list of the emergency that is passed and delete it. -/
def removeResponse (response emergency : RowKey) (commits : Bool) (stores : Stores) :
    Option (Stores × List Callback) :=
  performWrite commits (fun tables => do
    let tables ← tables.removeFrom emergency response
    let tables ← tables.delete response
    some (tables, [succeeded], .ok ⟨⟩)) ⟨false, some .errorClearData⟩ stores

/-- Assign the three properties of a stored response in turn. -/
def updateResponse (response : RowKey) (newValue : Response) (commits : Bool) (stores : Stores) :
    Option (Stores × List Callback) :=
  performWrite commits (fun tables => do
    let tables ← tables.setResponse response fun value => { value with date := newValue.date }
    let tables ← tables.setResponse response fun value => { value with details := newValue.details }
    let tables ← tables.setResponse response fun value =>
      { value with incidentNumber := newValue.incidentNumber }
    some (tables, [succeeded], .ok ⟨⟩)) ⟨false, some .errorWritingData⟩ stores

/-- Assign a type. Unlike `addEmergency` this does not ask whether it is taken. -/
def updateEmergency (emergency : RowKey) (newName : String) (commits : Bool) (stores : Stores) :
    Option (Stores × List Callback) :=
  performWrite commits (fun tables => do
    let tables ← tables.setType emergency newName
    some (tables, [succeeded], .ok ⟨⟩)) ⟨false, some .errorChangingName⟩ stores

/-- Delete an emergency's responses and then the emergency. -/
def removeEmergency (emergency : RowKey) (commits : Bool) (stores : Stores) :
    Option (Stores × List Callback) :=
  performWrite commits (fun tables => do
    let tables ← tables.deleteListOf emergency
    let tables ← tables.deleteObject emergency
    some (tables, [succeeded], .ok ⟨⟩)) ⟨false, some .errorClearData⟩ stores

/-- The user defaults are written before the transaction begins and stay written
if its commit fails. A transaction that is already open makes `beginWrite` raise.
-/
def clearAllData (now : Date) (commits : Bool) (stores : Stores) :
    Option (Stores × List Callback) := do
  let defaults := clearPresetPoints stores.defaults
  let defaults := setLastClearPoints now defaults
  let realm ← stores.defaultRealm.beginWrite
  let realm := realm.stage realm.visible.deleteAll
  let (realm, outcome) ← realm.commitWrite commits SwiftError.commitFailed
  match outcome with
  | .ok _ => some (⟨realm, defaults⟩, [succeeded])
  | .error _ => some (⟨realm, defaults⟩, [⟨false, some .errorClearData⟩])

end DataManager

/-- The operations that report to a callback, with their arguments. -/
inductive Mutation where
  | addEmergency (emergency : EmergencyRef)
  | addResponse (response : ResponseRef) (emergency : RowKey)
  | removeResponse (response emergency : RowKey)
  | updateResponse (response : RowKey) (newValue : Response)
  | updateEmergency (emergency : RowKey) (newName : String)
  | removeEmergency (emergency : RowKey)
  | clearAllData

/-- Perform a mutation at a clock reading, with the outcome of its commit. -/
def Mutation.perform (device : Device) (now : Date) (commits : Bool) (stores : Stores) :
    Mutation → Option (Stores × List Callback)
  | .addEmergency emergency => DataManager.addEmergency device now emergency commits stores
  | .addResponse response emergency => DataManager.addResponse response emergency commits stores
  | .removeResponse response emergency =>
      DataManager.removeResponse response emergency commits stores
  | .updateResponse response newValue => DataManager.updateResponse response newValue commits stores
  | .updateEmergency emergency newName =>
      DataManager.updateEmergency emergency newName commits stores
  | .removeEmergency emergency => DataManager.removeEmergency emergency commits stores
  | .clearAllData => DataManager.clearAllData now commits stores

/-- Every operation that changes a store. -/
inductive Action where
  | mutate (mutation : Mutation)
  | manuallyAdd (points : Int)
  | clearPoints

/-- Perform an operation. Those on the user defaults have no callback. -/
def Action.perform (device : Device) (now : Date) (commits : Bool) (stores : Stores) :
    Action → Option (Stores × List Callback)
  | .mutate mutation => mutation.perform device now commits stores
  | .manuallyAdd points => some (DataManager.manuallyAdd now points stores, [])
  | .clearPoints => some (DataManager.clearPoints now stores, [])

end ResponseTracker
