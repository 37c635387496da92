import ResponseTracker.DataSource.Mutations
import ResponseTracker.Std.Execution

/-!
# The response details screen

The screen edits a copy of a response. The copy takes the text of an input when
the input loses focus, and a picked date at once. `edit_saves` follows the copy
and the inputs through any events: nothing is stored until Save, which stores
what is shown.

The inputs are UIKit's: at most one has focus, and whenever it loses it the
delegate is told.
-/

namespace ResponseTracker

open DataManager Execution

/-- The inputs of the screen that can have focus. -/
inductive Input where
  | incidentNumber
  | incidentDetails
deriving DecidableEq

/-- The screen: the stored response in edit mode, the edited copy, and what is shown. -/
structure ResponseDetails where
  emergency : RowKey
  response : Option RowKey
  editResponse : ResponseRef
  incidentNumber : String
  incidentDetails : String
  incidentDate : String
  pickerShown : Bool := false
  firstResponder : Option Input := none

namespace ResponseDetails

/-- The format of the date shown. -/
def dateFormat : String := "MM/dd/yyyy HH:mm a"

/-- `update(withEmergencyType:response:…)` and then `setupViews`. The two clock
readings are those of the copy and of the response that stands for a missing one. -/
def update (device : Device) (editClock responseClock : Date) (emergency : RowKey)
    (response : Option ResponseRow) : ResponseDetails :=
  let value := response.map ResponseRow.value
  let shown := value.getD ⟨"", "", responseClock⟩
  { emergency
    response := response.map ResponseRow.key
    editResponse := .unmanaged
      { incidentNumber := (value.map Response.incidentNumber).getD ""
        details := (value.map Response.details).getD ""
        date := (value.map Response.date).getD editClock }
    incidentNumber := shown.incidentNumber
    incidentDetails := shown.details
    incidentDate := toString device shown.date dateFormat }

end ResponseDetails

/-- A screen that is open beside the stores. -/
structure EditSession where
  screen : ResponseDetails
  stores : Stores

/-- What the user does on the screen before leaving it. -/
inductive DetailsEvent where
  | beginEditing (input : Input)
  | type (text : String)
  | textFieldShouldReturn
  | onDoneButton
  | onChangeDate
  | onDatePicker (date : Date)

namespace EditSession

/-- `editResponse?.property = …`. A property of a stored object can only be set
while a transaction is open. -/
def assign (change : Response → Response) (session : EditSession) : Option EditSession :=
  match session.screen.editResponse with
  | .unmanaged value =>
      some { session with
        screen := { session.screen with editResponse := .unmanaged (change value) } }
  | .managed key => do
      let contents ← session.stores.defaultRealm.staged
      let contents ← contents.setResponse key change
      some { session with
        stores := { session.stores with
          defaultRealm := session.stores.defaultRealm.stage contents } }

def textFieldDidEndEditing (session : EditSession) : Option EditSession :=
  session.assign fun edited => { edited with incidentNumber := session.screen.incidentNumber }

def textViewDidEndEditing (session : EditSession) : Option EditSession :=
  session.assign fun edited => { edited with details := session.screen.incidentDetails }

/-- The input that has focus loses it. -/
def endEditing (session : EditSession) : Option EditSession :=
  let resigned := { session with screen := { session.screen with firstResponder := none } }
  match session.screen.firstResponder with
  | none => some session
  | some .incidentNumber => resigned.textFieldDidEndEditing
  | some .incidentDetails => resigned.textViewDidEndEditing

def becomeFirstResponder (input : Input) (session : EditSession) : Option EditSession :=
  if session.screen.firstResponder = some input then some session
  else do
    let session ← session.endEditing
    some { session with screen := { session.screen with firstResponder := some input } }

def resignFirstResponder (input : Input) (session : EditSession) : Option EditSession :=
  if session.screen.firstResponder = some input then session.endEditing else some session

/-- The text of the input that has focus becomes another. -/
def type (text : String) (session : EditSession) : EditSession :=
  match session.screen.firstResponder with
  | none => session
  | some .incidentNumber =>
      { session with screen := { session.screen with incidentNumber := text } }
  | some .incidentDetails =>
      { session with screen := { session.screen with incidentDetails := text } }

def onDatePicker (device : Device) (date : Date) (session : EditSession) : Option EditSession := do
  let session ← session.assign fun edited => { edited with date }
  some { session with
    screen := { session.screen with
      incidentDate := toString device date ResponseDetails.dateFormat
      pickerShown := false } }

def handle (device : Device) (session : EditSession) : DetailsEvent → Option EditSession
  | .beginEditing input => session.becomeFirstResponder input
  | .type text => some (session.type text)
  | .textFieldShouldReturn => session.resignFirstResponder .incidentNumber
  | .onDoneButton => session.resignFirstResponder .incidentDetails
  | .onChangeDate =>
      some { session with
        screen := { session.screen with pickerShown := !session.screen.pickerShown } }
  | .onDatePicker date => session.onDatePicker device date

/-- The object handed over by Save, which is the copy after the focus is lost. -/
def edited (session : EditSession) : Option Response :=
  match session.screen.editResponse with
  | .unmanaged value => some value
  | .managed key => (session.stores.tables.response? key).map ResponseRow.value

/-- `onSave`: in edit mode the copy goes to `handleChanged`, otherwise to `handleNew`. -/
def onSave (commits : Bool) (session : EditSession) : Option (Stores × List Callback) := do
  let session ← session.endEditing
  match session.screen.response with
  | none =>
      DataManager.addResponse session.screen.editResponse session.screen.emergency commits
        session.stores
  | some response => do
      let newValue ← session.edited
      DataManager.updateResponse response newValue commits session.stores

/-- Going back without Save. -/
def leave (session : EditSession) : Option Stores := session.endEditing.map EditSession.stores

def Step (device : Device) (before : EditSession) (event : DetailsEvent)
    (after : EditSession) : Prop :=
  before.handle device event = some after

/-! ## The copy and the inputs -/

/-- The copy is an object of its own and agrees with the inputs that have no focus. -/
structure Agrees (device : Device) (screen : ResponseDetails) (value : Response) : Prop where
  copy : screen.editResponse = .unmanaged value
  incidentNumber : screen.firstResponder ≠ some .incidentNumber →
    value.incidentNumber = screen.incidentNumber
  details : screen.firstResponder ≠ some .incidentDetails → value.details = screen.incidentDetails
  date : screen.incidentDate = toString device value.date ResponseDetails.dateFormat

/-- The screen without focus, when the copy has taken the texts of both inputs. -/
def settled (session : EditSession) (date : Date) : EditSession :=
  { session with
    screen := { session.screen with
      editResponse := .unmanaged
        ⟨session.screen.incidentNumber, session.screen.incidentDetails, date⟩
      firstResponder := none } }

variable {device : Device} {session : EditSession} {value : Response}

/-- An object of its own is changed without touching the stores. -/
theorem assign_of_copy (change : Response → Response)
    (copy : session.screen.editResponse = .unmanaged value) :
    session.assign change = some { session with
      screen := { session.screen with editResponse := .unmanaged (change value) } } := by
  rw [assign, copy]

/-- However the focus is lost, the copy takes both texts and keeps its date. -/
theorem endEditing_eq (agrees : Agrees device session.screen value) :
    session.endEditing = some (session.settled value.date) := by
  obtain ⟨⟨emergency, response, editResponse, number, details, date, pickerShown, focus⟩, stores⟩ :=
    session
  obtain ⟨rfl, numberShown, detailsShown, -⟩ := agrees
  cases focus with
  | none =>
      have sameNumber : value.incidentNumber = number := numberShown (by simp)
      have sameDetails : value.details = details := detailsShown (by simp)
      rw [endEditing, settled, ← sameNumber, ← sameDetails]
  | some input =>
      cases input with
      | incidentNumber =>
          have other : value.details = details := detailsShown (by simp)
          rw [endEditing, textFieldDidEndEditing, assign_of_copy _ rfl, settled, ← other]
      | incidentDetails =>
          have other : value.incidentNumber = number := numberShown (by simp)
          rw [endEditing, textViewDidEndEditing, assign_of_copy _ rfl, settled, ← other]

theorem settled_agrees (agrees : Agrees device session.screen value) :
    Agrees device (session.settled value.date).screen
      ⟨session.screen.incidentNumber, session.screen.incidentDetails, value.date⟩ where
  copy := rfl
  incidentNumber _ := rfl
  details _ := rfl
  date := agrees.date

/-- The date of the copy after an event. -/
def dateAfter (date : Date) : DetailsEvent → Date
  | .onDatePicker picked => picked
  | _ => date

/-- An event is handled without touching the stores or the response edited, and
the copy agrees with the inputs again. -/
theorem handle_agrees (agrees : Agrees device session.screen value) (event : DetailsEvent) :
    ∃ after changed, session.handle device event = some after ∧
      Agrees device after.screen changed ∧ changed.date = dateAfter value.date event ∧
      after.stores = session.stores ∧ after.screen.response = session.screen.response := by
  cases event with
  | beginEditing input =>
      rw [handle, becomeFirstResponder]
      split
      · exact ⟨session, value, rfl, agrees, rfl, rfl, rfl⟩
      · rw [endEditing_eq agrees]
        obtain ⟨copy, number, details, date⟩ := settled_agrees agrees
        exact ⟨_, _, rfl, ⟨copy, fun _ => rfl, fun _ => rfl, date⟩, rfl, rfl, rfl⟩
  | type text =>
      refine ⟨_, value, rfl, ?_⟩
      rw [EditSession.type]
      cases focus : session.screen.firstResponder with
      | none => exact ⟨agrees, rfl, rfl, rfl⟩
      | some input =>
          cases input with
          | incidentNumber =>
              exact ⟨⟨agrees.copy, fun other => absurd focus other, agrees.details, agrees.date⟩,
                rfl, rfl, rfl⟩
          | incidentDetails =>
              exact ⟨⟨agrees.copy, agrees.incidentNumber, fun other => absurd focus other,
                agrees.date⟩, rfl, rfl, rfl⟩
  | textFieldShouldReturn =>
      rw [handle, resignFirstResponder]
      split
      · rw [endEditing_eq agrees]
        exact ⟨_, _, rfl, settled_agrees agrees, rfl, rfl, rfl⟩
      · exact ⟨session, value, rfl, agrees, rfl, rfl, rfl⟩
  | onDoneButton =>
      rw [handle, resignFirstResponder]
      split
      · rw [endEditing_eq agrees]
        exact ⟨_, _, rfl, settled_agrees agrees, rfl, rfl, rfl⟩
      · exact ⟨session, value, rfl, agrees, rfl, rfl, rfl⟩
  | onChangeDate =>
      obtain ⟨copy, number, details, date⟩ := agrees
      exact ⟨_, value, rfl, ⟨copy, number, details, date⟩, rfl, rfl, rfl⟩
  | onDatePicker picked =>
      obtain ⟨copy, number, details, -⟩ := agrees
      rw [handle, onDatePicker, assign_of_copy _ copy]
      exact ⟨_, { value with date := picked }, rfl, ⟨rfl, number, details, rfl⟩, rfl, rfl, rfl⟩

/-! ## Sessions in edit mode -/

/-- The screen opened on a stored response. -/
def opened (device : Device) (clock : Date) (emergency : RowKey) (row : ResponseRow)
    (stores : Stores) : EditSession where
  screen := .update device clock clock emergency (some row)
  stores := stores

/-- The date picked last, or the original one. -/
def lastPicked (original : Date) (events : List DetailsEvent) : Date :=
  events.foldl dateAfter original

/-- Through any events, the copy keeps agreeing with the inputs, its date is the
one picked last, and the stores stay as they were. -/
theorem session_agrees {clock : Date} {emergency : RowKey} {row : ResponseRow} {stores : Stores}
    {history : List (Performed EditSession DetailsEvent)}
    (runs : Runs (Step device) (opened device clock emergency row stores) history session) :
    ∃ value, Agrees device session.screen value ∧
      value.date = lastPicked row.value.date (history.map Performed.action) ∧
      session.stores = stores ∧ session.screen.response = some row.key := by
  induction runs with
  | initial => exact ⟨row.value, ⟨rfl, fun _ => rfl, fun _ => rfl, rfl⟩, rfl, rfl, rfl⟩
  | @step earlier before event next prior transition ih =>
      obtain ⟨value, agrees, date, stores, response⟩ := ih
      obtain ⟨after, changed, handled, changedAgrees, changedDate, sameStores, sameResponse⟩ :=
        handle_agrees agrees event
      obtain rfl : after = next := Option.some.inj (handled.symm.trans transition)
      refine ⟨changed, changedAgrees, ?_, sameStores.trans stores, sameResponse.trans response⟩
      rw [changedDate, date, List.map_append, lastPicked, lastPicked, List.foldl_append]
      rfl

/-- Save hands over what is shown, with the date of the copy. -/
theorem onSave_eq {response : RowKey} (commits : Bool)
    (agrees : Agrees device session.screen value)
    (editing : session.screen.response = some response) :
    session.onSave commits =
      DataManager.updateResponse response
        ⟨session.screen.incidentNumber, session.screen.incidentDetails, value.date⟩ commits
        session.stores := by
  rw [onSave, endEditing_eq agrees]
  simp only [Option.bind_eq_bind, Option.bind_some, settled, editing, edited]

end EditSession

open EditSession

/-- After any events on the screen of a stored response nothing is stored yet,
leaving it stores nothing, and a Save that commits stores the texts shown and
the date picked last, or the original one. -/
theorem edit_saves {device : Device} {clock : Date} {emergency : RowKey} {row : ResponseRow}
    {stores : Stores} {history : List (Performed EditSession DetailsEvent)} {session : EditSession}
    (stored : stores.tables.response? row.key = some row)
    (runs : Runs (Step device) (opened device clock emergency row stores) history session) :
    let saved : Response := ⟨session.screen.incidentNumber, session.screen.incidentDetails,
      lastPicked row.value.date (history.map Performed.action)⟩
    session.stores = stores ∧ session.leave = some stores ∧
      (stores.defaultRealm.staged = none → (session.onSave true).isSome) ∧
      ∀ after calls, session.onSave true = some (after, calls) →
        after.tables.response? row.key = some ⟨row.key, saved⟩ ∧
        after = ⟨⟨stores.tables.updateResponse row.key fun _ => saved, none⟩, stores.defaults⟩ := by
  intro saved
  obtain ⟨value, agrees, date, rfl, response⟩ := session_agrees runs
  have saves := onSave_eq true agrees response
  rw [date] at saves
  refine ⟨rfl, ?_, fun closed => ?_, fun after calls performed => ?_⟩
  · rw [leave, endEditing_eq agrees]
    rfl
  · rw [saves]
    have live : (Mutation.updateResponse row.key saved).live session.stores.tables = true := by
      simp [Mutation.live, Mutation.requested, Tables.setResponse, stored]
    exact (perform_isSome (Device.gmt "") 0 true).mpr ⟨closed, live⟩
  · rw [saves] at performed
    obtain rfl := updateResponse_eq_some performed
    refine ⟨?_, rfl⟩
    rw [tables_settled, Tables.response?_eq_some_iff]
    obtain ⟨member, -⟩ := Tables.response?_eq_some stored
    refine ⟨List.mem_map.mpr ⟨row, member, ?_⟩, rfl⟩
    rw [Tables.changedRow, if_pos (beq_self_eq_true row.key)]

/-- The incident number becomes "8" and the date another, while the number's field has focus. -/
theorem edit_saves_eight :
    let tables := (Tables.empty.insertEmergency "Fire").appendNew 0 ⟨"7", "", 5⟩
    let start := opened (Device.gmt "") 0 0 ⟨1, ⟨"7", "", 5⟩⟩ ⟨⟨tables, none⟩, {}⟩
    let number :=
      { start with screen := { start.screen with firstResponder := some .incidentNumber } }
    let typed := { number with screen := { number.screen with incidentNumber := "8" } }
    let picked :=
      { typed with screen := { typed.screen with editResponse := .unmanaged ⟨"7", "", 9⟩ } }
    ∀ after calls, picked.onSave true = some (after, calls) →
      after.tables.response? 1 = some ⟨1, ⟨"8", "", 9⟩⟩ := by
  intro tables start number typed picked after calls saved
  have first : Step (Device.gmt "") start (.beginEditing .incidentNumber) number := rfl
  have second : Step (Device.gmt "") number (.type "8") typed := rfl
  have third : Step (Device.gmt "") typed (.onDatePicker 9) picked := rfl
  obtain ⟨-, -, -, saves⟩ := edit_saves rfl (.step (.step (.step .initial first) second) third)
  exact (saves after calls saved).1

end ResponseTracker
