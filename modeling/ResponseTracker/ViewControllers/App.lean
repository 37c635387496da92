import ResponseTracker.DataSource.Export
import ResponseTracker.DataSource.Overflow
import ResponseTracker.DataSource.Recovery
import ResponseTracker.Utils.AlertFactory
import ResponseTracker.ViewControllers.EmergencyViewController

/-!
# The program and its screens

The list of emergencies, the screens above it and the stores under them. A
gesture is what the user does on the screen that is shown, up to the
confirmation of the dialog it opens; `handle` answers the program after it, or
`none` when it ends the process. That is when the store raises, an index is out
of range, an addition overflows or a range is not well formed.

The list loads its data when it appears, and after every callback that reports
no error. What a screen only presents (the labels of the details screen, alerts)
is left out.
-/

namespace ResponseTracker

open AlertFactory DataManager

/-- `EmergencyViewController` -/
structure EmergencyList where
  emergencyTypes : List RowKey := []
  points : Points := {}
  showEmptyData : Bool := false

/-- `EmergencyDetailsViewController`, opened at a row of the list, and the
response screen above it. -/
structure EmergencyDetails where
  emergencyCall : RowKey
  row : Nat
  title : String
  showEmptyData : Bool
  response : Option ResponseDetails := none

/-- The screen above the list. -/
inductive Screen where
  | emergency (details : EmergencyDetails)
  | newResponse (response : ResponseDetails)
  | points (points : Points)

/-- The running program: its stores, the list at the bottom and the screen above it. -/
structure App where
  stores : Stores
  list : EmergencyList
  screen : Option Screen

/-- What the user does, with what is entered in the dialogs. Of the two answers
to having responded, `onResponded` is "Done" and `showResponseDetails` "Details". -/
inductive Gesture where
  | onAddCall (emergencyType : String)
  | onResponded (index : Nat)
  | showResponseDetails (index : Nat)
  | didSelectEmergency (index : Nat)
  | onShowPoints
  | onEdit (newName : String)
  | onDeleteEmergency
  | didSelectResponse (index : Nat)
  | details (event : DetailsEvent)
  | onSave
  | onDeleteResponse
  | onAddPoints (text : String)
  | onResetPoints
  | onClearData
  | onExportData
  | back

/-- A gesture with the reading of the clock and whether what it writes is written. -/
structure UserEvent where
  gesture : Gesture
  now : Date
  commits : Bool

namespace EmergencyList

/-- `loadData()`. The additions of `loadPoints` trap out of range. -/
def loadData (device : Device) (now : Date) (stores : Stores) : Option EmergencyList := do
  let points ← loadPoints? device stores.defaults stores.tables now now now
  let emergencyTypes := EmergencyScreens.loadData device now stores
  some { emergencyTypes, points, showEmptyData := emergencyTypes.length == 0 }

/-- The figure in the cell of an emergency. -/
def numberOfCalls (device : Device) (stores : Stores) (now : Date) (emergency : RowKey) :
    Option Int :=
  (stores.tables.emergency? emergency).map
    (monthPoints device stores.defaults stores.tables now)

end EmergencyList

namespace App

/-- `reloadData()`, also called when the list appears. -/
def reloadData (device : Device) (now : Date) (app : App) : Option App := do
  let list ← EmergencyList.loadData device now app.stores
  some { app with list }

/-- `if error != nil { … } else { reloadData() }` in a callback. -/
def reloadAfter (device : Device) (now : Date) (calls : List Callback) (app : App) : Option App :=
  if calls.any fun call => call.error.isNone then app.reloadData device now else some app

/-! ## The list -/

/-- `onAddCall` with the text of its dialog, which does nothing with an empty one. -/
def onAddCall (device : Device) (now : Date) (commits : Bool) (emergencyType : String)
    (app : App) : Option App :=
  if emergencyType = "" then some app
  else do
    let newEmergencyType : Emergency := ⟨emergencyType, []⟩
    let (stores, calls) ←
      addEmergency device now (.unmanaged newEmergencyType) commits app.stores
    { app with stores }.reloadAfter device now calls

/-- `onResponded` with "Done", which adds an empty response. -/
def onResponded (device : Device) (now : Date) (commits : Bool) (index : Nat) (app : App) :
    Option App := do
  let emergency ← app.list.emergencyTypes[index]?
  let _ ← app.stores.tables.emergency? emergency
  let response : Response := { incidentNumber := "", details := "", date := now }
  let (stores, calls) ← addResponse (.unmanaged response) emergency commits app.stores
  { app with stores }.reloadAfter device now calls

/-- `onResponded` with "Details", which opens the response screen on a new response. -/
def showResponseDetails (device : Device) (now : Date) (index : Nat) (app : App) : Option App := do
  let emergency ← app.list.emergencyTypes[index]?
  let _ ← app.stores.tables.emergency? emergency
  some { app with screen := some (.newResponse (.update device now now emergency none)) }

/-- Open the details of the emergency in a row. -/
def didSelectEmergency (index : Nat) (app : App) : Option App := do
  let emergencyCall ← app.list.emergencyTypes[index]?
  let row ← app.stores.tables.emergency? emergencyCall
  let details : EmergencyDetails :=
    { emergencyCall, row := index, title := row.type, showEmptyData := row.responses.length == 0 }
  some { app with screen := some (.emergency details) }

/-- Open the points screen with the figures the list was loaded with. -/
def onShowPoints (app : App) : Option App :=
  some { app with screen := some (.points app.list.points) }

/-! ## The details of an emergency -/

/-- `onEdit` with the text of its dialog. A success changes the title too. -/
def onEdit (commits : Bool) (newName : String) (details : EmergencyDetails) (app : App) :
    Option App :=
  if newName = "" then some app
  else do
    let (stores, calls) ← updateEmergency details.emergencyCall newName commits app.stores
    let title := if calls.any fun call => call.error.isNone then newName else details.title
    some { app with stores, screen := some (.emergency { details with title }) }

/-- A success pops to the list, which appears. -/
def onDeleteEmergency (device : Device) (now : Date) (commits : Bool) (details : EmergencyDetails)
    (app : App) : Option App := do
  let (stores, calls) ← removeEmergency details.emergencyCall commits app.stores
  if calls.any fun call => call.error.isNone then
    ({ app with stores, screen := none } : App).reloadData device now
  else some { app with stores }

/-- Open the response screen on a response of the details, sorted by date. -/
def didSelectResponse (device : Device) (now : Date) (index : Nat) (details : EmergencyDetails)
    (app : App) : Option App := do
  let row ← app.stores.tables.emergency? details.emergencyCall
  let response ← (app.stores.tables.responseSortedByDate row)[index]?
  let opened : ResponseDetails := .update device now now details.emergencyCall (some response)
  some { app with screen := some (.emergency { details with response := some opened }) }

/-! ## The response screen -/

/-- An event of the inputs; `place` puts the response screen where it is shown. -/
def edit (device : Device) (event : DetailsEvent) (response : ResponseDetails)
    (place : ResponseDetails → Screen) (app : App) : Option App := do
  let session ← EditSession.handle device ⟨response, app.stores⟩ event
  some { app with stores := session.stores, screen := some (place session.screen) }

/-- Saving an edited response pops to the details. Its result is only reported. -/
def saveChanged (commits : Bool) (details : EmergencyDetails) (response : ResponseDetails)
    (app : App) : Option App := do
  let (stores, _) ← EditSession.onSave commits ⟨response, app.stores⟩
  some { app with stores, screen := some (.emergency { details with response := none }) }

/-- Saving a new response pops to the list, which loads its data again when it
appears, whatever the callback has done before. -/
def saveNew (device : Device) (now : Date) (commits : Bool) (response : ResponseDetails)
    (app : App) : Option App := do
  let (stores, _) ← EditSession.onSave commits ⟨response, app.stores⟩
  { app with stores, screen := none }.reloadData device now

/-- The callback subscripts the list's array with the row of the details. -/
def onDeleteResponse (device : Device) (now : Date) (commits : Bool) (details : EmergencyDetails)
    (response : ResponseDetails) (app : App) : Option App := do
  let removed ← response.response
  let emergency ← app.list.emergencyTypes[details.row]?
  let (stores, calls) ← removeResponse removed emergency commits app.stores
  { app with stores, screen := some (.emergency { details with response := none }) }.reloadAfter
    device now calls

/-! ## The points screen -/

/-- `onAddPoints`: the grant is stored and the figures shown are raised, which
traps out of range. -/
def onAddPoints (now : Date) (text : String) (points : Points) (app : App) : Option App := do
  let added := showAddPointsAlert text
  let points ← points.increaseCurrent? added
  some { app with stores := manuallyAdd now added app.stores, screen := some (.points points) }

/-- `onResetPoints`: the reset, with zeros shown. -/
def onResetPoints (now : Date) (points : Points) (app : App) : Option App :=
  some { app with
    stores := DataManager.clearPoints now app.stores
    screen := some (.points points.clearPoints) }

/-- `onClearData`: zeros are shown whatever the callback reports. -/
def onClearData (device : Device) (now : Date) (commits : Bool) (points : Points) (app : App) :
    Option App := do
  let (stores, calls) ← clearAllData now commits app.stores
  let app ← { app with stores }.reloadAfter device now calls
  some { app with screen := some (.points points.clearPoints) }

/-- `onExportData`, which presents the file or a message. -/
def onExportData (device : Device) (now : Date) (writes : Bool) (app : App) : Option App := do
  let _ ← exportFile device app.stores now writes
  some app

/-! ## Going back -/

/-- Going back from an edited response: the focus is lost and the details are shown. -/
def leaveChanged (details : EmergencyDetails) (response : ResponseDetails) (app : App) :
    Option App := do
  let stores ← EditSession.leave ⟨response, app.stores⟩
  some { app with stores, screen := some (.emergency { details with response := none }) }

/-- Going back from a new response: the focus is lost and the list appears. -/
def leaveNew (device : Device) (now : Date) (response : ResponseDetails) (app : App) :
    Option App := do
  let stores ← EditSession.leave ⟨response, app.stores⟩
  { app with stores, screen := none }.reloadData device now

/-- Going back to the list, which loads when it appears. -/
def backToList (device : Device) (now : Date) (app : App) : Option App :=
  { app with screen := none }.reloadData device now

/-- A gesture on the screen shown. No other screen receives it. -/
def handle (device : Device) (event : UserEvent) (app : App) : Option App :=
  let now := event.now
  let commits := event.commits
  match app.screen with
  | none =>
      match event.gesture with
      | .onAddCall emergencyType => app.onAddCall device now commits emergencyType
      | .onResponded index => app.onResponded device now commits index
      | .showResponseDetails index => app.showResponseDetails device now index
      | .didSelectEmergency index => app.didSelectEmergency index
      | .onShowPoints => app.onShowPoints
      | _ => none
  | some (.emergency details) =>
      match details.response with
      | none =>
          match event.gesture with
          | .onEdit newName => app.onEdit commits newName details
          | .onDeleteEmergency => app.onDeleteEmergency device now commits details
          | .didSelectResponse index => app.didSelectResponse device now index details
          | .back => app.backToList device now
          | _ => none
      | some response =>
          match event.gesture with
          | .details event =>
              app.edit device event response fun response =>
                .emergency { details with response := some response }
          | .onSave => app.saveChanged commits details response
          | .onDeleteResponse => app.onDeleteResponse device now commits details response
          | .back => app.leaveChanged details response
          | _ => none
  | some (.newResponse response) =>
      match event.gesture with
      | .details event => app.edit device event response .newResponse
      | .onSave => app.saveNew device now commits response
      | .back => app.leaveNew device now response
      | _ => none
  | some (.points points) =>
      match event.gesture with
      | .onAddPoints text => app.onAddPoints now text points
      | .onResetPoints => app.onResetPoints now points
      | .onClearData => app.onClearData device now commits points
      | .onExportData => app.onExportData device now commits
      | .back => app.backToList device now
      | _ => none

/-- The gestures the screen shown offers. The placeholder shown instead of no
rows cannot be selected. -/
def Offers (app : App) (gesture : Gesture) : Prop :=
  match app.screen with
  | none =>
      match gesture with
      | .onAddCall _ | .onShowPoints => True
      | .onResponded index | .showResponseDetails index | .didSelectEmergency index =>
          app.list.showEmptyData = false ∧ index < app.list.emergencyTypes.length
      | _ => False
  | some (.emergency details) =>
      match details.response with
      | none =>
          match gesture with
          | .onEdit _ | .onDeleteEmergency | .back => True
          | .didSelectResponse index => details.showEmptyData = false ∧
              ∃ row, app.stores.tables.emergency? details.emergencyCall = some row ∧
                index < row.responses.length
          | _ => False
      | some _ =>
          match gesture with
          | .details _ | .onSave | .onDeleteResponse | .back => True
          | _ => False
  | some (.newResponse _) =>
      match gesture with
      | .details _ | .onSave | .back => True
      | _ => False
  | some (.points _) =>
      match gesture with
      | .onAddPoints _ | .onResetPoints | .onClearData | .onExportData | .back => True
      | _ => False

/-- The program after its launch over given stores. -/
def launched (device : Device) (now : Date) (stores : Stores) : Option App :=
  { stores, list := {}, screen := none : App }.reloadData device now

end App
end ResponseTracker
