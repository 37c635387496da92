import ResponseTracker.DataSource.Frame
import ResponseTracker.Std.Ranking
import ResponseTracker.ViewControllers.ResponseDetailsViewController

/-!
# The list of emergencies and the screens above it

The callback handed to the details screen of an emergency looks the emergency
up again, by the row that was selected, in a list that its own deletions sort
anew. `addressed_iff` says in exactly which sessions every deletion still finds
the emergency shown.
-/

namespace ResponseTracker

open DataManager Execution

/-- The responses of an emergency, the latest first. -/
def Tables.responseSortedByDate (tables : Tables) (row : EmergencyRow) : List ResponseRow :=
  (row.responses.filterMap tables.response?).insertionSort fun response1 response2 =>
    response1.value.date ≥ response2.value.date

/-- The list screen's array, and the response screen while it is open. -/
structure EmergencyScreens where
  stores : Stores
  emergencyTypes : List RowKey
  response : Option ResponseDetails

/-- What the user does on the details screen of an emergency and above it. -/
inductive ScreenEvent where
  | didSelectRow (index : Nat) (clock : Date)
  | details (event : DetailsEvent)
  | onSave (commits : Bool)
  | back
  | onDelete (now : Date) (commits : Bool)

namespace EmergencyScreens

/-- `emergencyTypes` as `loadData` assigns it. -/
def loadData (device : Device) (now : Date) (stores : Stores) : List RowKey :=
  (getEmergencyTypes device stores.defaults stores.tables now).map EmergencyRow.key

/-- Every callback without an error reloads. -/
def handleRemoved (device : Device) (now : Date) (commits : Bool) (response emergency : RowKey)
    (screens : EmergencyScreens) : Option EmergencyScreens := do
  let (stores, calls) ← removeResponse response emergency commits screens.stores
  some { screens with
    stores
    emergencyTypes :=
      if calls.any fun call => call.error.isNone then loadData device now stores
      else screens.emergencyTypes }

/-- `tableView(_:didSelectRowAt:)` of the details screen. -/
def didSelectRow (device : Device) (clock : Date) (emergency : RowKey) (index : Nat)
    (screens : EmergencyScreens) : Option EmergencyScreens := do
  let row ← screens.stores.tables.emergency? emergency
  let response ← (screens.stores.tables.responseSortedByDate row)[index]?
  some { screens with response := some (.update device clock clock emergency (some response)) }

def details (device : Device) (event : DetailsEvent) (screens : EmergencyScreens) :
    Option EmergencyScreens := do
  let screen ← screens.response
  let session ← EditSession.handle device ⟨screen, screens.stores⟩ event
  some { screens with stores := session.stores, response := some session.screen }

/-- Saving closes the response screen. Its result is only reported. -/
def onSave (commits : Bool) (screens : EmergencyScreens) : Option EmergencyScreens := do
  let screen ← screens.response
  let (stores, _) ← EditSession.onSave commits ⟨screen, screens.stores⟩
  some { screens with stores, response := none }

def back (screens : EmergencyScreens) : Option EmergencyScreens := do
  let screen ← screens.response
  let stores ← EditSession.leave ⟨screen, screens.stores⟩
  some { screens with stores, response := none }

/-- A confirmed deletion. The callback was created for the selected row of the
list and subscripts the array as it is now, out of range of which it traps. -/
def onDelete (device : Device) (now : Date) (commits : Bool) (row : Nat)
    (screens : EmergencyScreens) : Option EmergencyScreens := do
  let screen ← screens.response
  let response ← screen.response
  let emergency ← screens.emergencyTypes[row]?
  handleRemoved device now commits response emergency { screens with response := none }

def handle (device : Device) (emergency : RowKey) (row : Nat) (screens : EmergencyScreens) :
    ScreenEvent → Option EmergencyScreens
  | .didSelectRow index clock => screens.didSelectRow device clock emergency index
  | .details event => screens.details device event
  | .onSave commits => screens.onSave commits
  | .back => screens.back
  | .onDelete now commits => screens.onDelete device now commits row

/-- An event while the details of an emergency are shown, which was opened at a row. -/
def Step (device : Device) (emergency : RowKey) (row : Nat) (before : EmergencyScreens)
    (event : ScreenEvent) (after : EmergencyScreens) : Prop :=
  before.handle device emergency row event = some after

/-- The callback finds the emergency in range and as the one shown. -/
def Addresses (emergency : RowKey) (row : Nat) (screens : EmergencyScreens) : Prop :=
  screens.emergencyTypes[row]? = some emergency

/-- The place of a stored emergency when all are ranked by points in the current month. -/
def place (device : Device) (defaults : UserDefaults) (tables : Tables) (now : Date)
    (emergency : RowKey) : Option Nat :=
  (tables.emergency? emergency).map fun row =>
    Ranking.rank (monthPoints device defaults tables now) row tables.emergencies

def Deletes (performed : Performed EmergencyScreens ScreenEvent) : Prop :=
  ∃ now commits, performed.action = .onDelete now commits

/-- Without the response deleted, the emergency is ranked at the row again. -/
def KeepsPlace (device : Device) (emergency : RowKey) (row : Nat)
    (performed : Performed EmergencyScreens ScreenEvent) : Prop :=
  ∀ now commits, performed.action = .onDelete now commits →
    ∀ screen ∈ performed.before.response, ∀ response ∈ screen.response,
      let stores := performed.before.stores
      place device stores.defaults (stores.tables.deleteResponses (· == response)) now emergency =
        some row

/-- What every event keeps: the array lists all emergencies, which stay stored,
and an open response screen edits a copy of a stored response. -/
structure Coherent (device : Device) (emergencies : List RowKey) (screens : EmergencyScreens) :
    Prop where
  listed : screens.emergencyTypes.Perm emergencies
  stored : screens.stores.tables.emergencies.map EmergencyRow.key = emergencies
  editing : ∀ screen, screens.response = some screen → screen.response.isSome
  copied : ∀ screen, screens.response = some screen →
    ∃ value, EditSession.Agrees device screen value

variable {device : Device} {emergency : RowKey} {row : Nat} {before after : EmergencyScreens}

/-! ## The array -/

theorem loadData_perm (device : Device) (now : Date) (stores : Stores) :
    (loadData device now stores).Perm (stores.tables.emergencies.map EmergencyRow.key) :=
  (List.perm_insertionSort _ _).map _

/-- The sorted array has an emergency at a row exactly if it is ranked there. -/
theorem loadData_getElem?_iff {now : Date} {stores : Stores} :
    (loadData device now stores)[row]? = some emergency ↔
      place device stores.defaults stores.tables now emergency = some row := by
  simp only [loadData, place, List.getElem?_map, Option.map_eq_some_iff]
  refine exists_congr fun found => ?_
  have distinct : stores.tables.emergencies.Nodup := .of_map _ stores.tables.emergencies_nodup
  constructor
  · rintro ⟨sorted, rfl⟩
    have member : found ∈ stores.tables.emergencies :=
      (List.perm_insertionSort _ _).mem_iff.mp (List.mem_of_getElem? sorted)
    exact ⟨Tables.emergency?_of_mem member,
      (Ranking.getElem?_insertionSort_iff distinct member).mp sorted⟩
  · rintro ⟨leads, ranked⟩
    obtain ⟨member, sameKey⟩ := Tables.emergency?_eq_some leads
    exact ⟨(Ranking.getElem?_insertionSort_iff distinct member).mpr ranked, sameKey⟩

/-! ## What an event does -/

/-- The emergency at the row is the one the response is removed from. -/
theorem onDelete_of_addresses {now : Date} {commits : Bool} {screen : ResponseDetails}
    {response : RowKey} (shown : before.response = some screen)
    (edited : screen.response = some response) (addresses : Addresses emergency row before) :
    before.onDelete device now commits row =
      handleRemoved device now commits response emergency { before with response := none } := by
  rw [Addresses] at addresses
  simp only [onDelete, shown, edited, addresses, Option.bind_eq_bind, Option.bind_some]

/-- A deletion is made whether or not it commits, and its success is reported
before that is known, so it reloads the array in any case. -/
theorem onDelete_eq_some {now : Date} {commits : Bool}
    (deleted : before.onDelete device now commits row = some after) :
    ∃ screen response, before.response = some screen ∧ screen.response = some response ∧
      after.response = none ∧ after.stores.defaults = before.stores.defaults ∧
      after.stores.tables = before.stores.tables.deleteResponses (· == response) ∧
      after.emergencyTypes = loadData device now after.stores := by
  simp only [onDelete, handleRemoved, Option.bind_eq_bind, Option.bind_eq_some_iff] at deleted
  obtain ⟨screen, shown, response, edited, target, -, ⟨stores, calls⟩, removed, same⟩ := deleted
  obtain ⟨rfl, rfl⟩ := removeResponse_eq_some removed
  obtain rfl := Option.some.inj same
  refine ⟨screen, response, shown, edited, rfl, rfl, tables_settled _ _ _ _, ?_⟩
  cases commits <;> rfl

/-- Any other event leaves the array as it is. -/
theorem emergencyTypes_of_not_deletes {event : ScreenEvent}
    (step : Step device emergency row before event after)
    (idle : ¬ Deletes ⟨before, event, after⟩) : after.emergencyTypes = before.emergencyTypes := by
  cases event with
  | onDelete now commits => exact absurd ⟨now, commits, rfl⟩ idle
  | _ =>
      simp only [Step, handle, didSelectRow, details, onSave, back, Option.bind_eq_bind,
        Option.bind_eq_some_iff] at step
      grind

theorem Step.coherent {emergencies : List RowKey} {event : ScreenEvent}
    (coherent : Coherent device emergencies before)
    (step : Step device emergency row before event after) :
    Coherent device emergencies after := by
  obtain ⟨listed, stored, editing, copied⟩ := coherent
  -- The sessions on the response screen are over the stores of all screens.
  have agreeing : ∀ screen, before.response = some screen → ∃ value,
      EditSession.Agrees device (EditSession.mk screen before.stores).screen value := copied
  cases event with
  | didSelectRow index clock =>
      simp only [Step, handle, didSelectRow, Option.bind_eq_bind, Option.bind_eq_some_iff] at step
      obtain ⟨_, -, response, -, same⟩ := step
      obtain rfl := Option.some.inj same
      refine ⟨listed, stored, ?_, ?_⟩
      · rintro screen ⟨⟩
        rfl
      · rintro screen ⟨⟩
        exact ⟨response.value, rfl, fun _ => rfl, fun _ => rfl, rfl⟩
  | details event =>
      simp only [Step, handle, details, Option.bind_eq_bind, Option.bind_eq_some_iff] at step
      obtain ⟨screen, shown, session, handled, same⟩ := step
      obtain rfl := Option.some.inj same
      obtain ⟨value, agrees⟩ := agreeing screen shown
      obtain ⟨next, changed, reached, changedAgrees, -, sameStores, sameResponse⟩ :=
        EditSession.handle_agrees agrees event
      obtain rfl : next = session := Option.some.inj (reached.symm.trans handled)
      refine ⟨listed, by rw [sameStores]; exact stored, ?_, ?_⟩
      · rintro screen ⟨⟩
        rw [sameResponse]
        exact editing _ shown
      · rintro screen ⟨⟩
        exact ⟨changed, changedAgrees⟩
  | onSave commits =>
      simp only [Step, handle, onSave, Option.bind_eq_bind, Option.bind_eq_some_iff] at step
      obtain ⟨screen, shown, ⟨stores, calls⟩, saved, same⟩ := step
      obtain rfl := Option.some.inj same
      obtain ⟨value, agrees⟩ := agreeing screen shown
      obtain ⟨response, edited⟩ := Option.isSome_iff_exists.mp (editing screen shown)
      rw [EditSession.onSave_eq commits agrees edited] at saved
      refine ⟨listed, ?_, by simp, by simp⟩
      rw [updateResponse_eq_some saved, tables_settled]
      exact stored
  | back =>
      simp only [Step, handle, back, Option.bind_eq_bind, Option.bind_eq_some_iff] at step
      obtain ⟨screen, shown, stores, left, same⟩ := step
      obtain rfl := Option.some.inj same
      obtain ⟨value, agrees⟩ := agreeing screen shown
      rw [EditSession.leave, EditSession.endEditing_eq agrees] at left
      obtain rfl := Option.some.inj left
      exact ⟨listed, stored, by simp, by simp⟩
  | onDelete now commits =>
      obtain ⟨_, response, -, -, closed, -, left, reloaded⟩ := onDelete_eq_some step
      have stillStored : after.stores.tables.emergencies.map EmergencyRow.key = emergencies := by
        rw [left, ← stored]
        exact RowTable.map_key_map (Tables.unlinkedRow_key _) _
      refine ⟨?_, stillStored, by simp [closed], by simp [closed]⟩
      rw [reloaded, ← stillStored]
      exact loadData_perm device now after.stores

/-- After a deletion the callback finds the emergency exactly if its place was kept. -/
theorem addresses_after_iff {performed : Performed EmergencyScreens ScreenEvent}
    (step : Step device emergency row performed.before performed.action performed.after)
    (deletes : Deletes performed) :
    Addresses emergency row performed.after ↔ KeepsPlace device emergency row performed := by
  obtain ⟨before, event, after⟩ := performed
  obtain ⟨now, commits, rfl⟩ := deletes
  obtain ⟨screen, response, shown, edited, -, defaults, left, reloaded⟩ := onDelete_eq_some step
  rw [Addresses, reloaded, loadData_getElem?_iff, defaults, left]
  constructor
  · rintro placed _ _ ⟨⟩ _ sameScreen _ sameResponse
    obtain rfl := Option.some.inj (shown.symm.trans sameScreen)
    obtain rfl := Option.some.inj (edited.symm.trans sameResponse)
    exact placed
  · intro kept
    exact kept now commits rfl screen shown response edited

end EmergencyScreens

open EmergencyScreens

/-- While the details opened at a row show an emergency, the row stays in range
of the array, and every deletion addresses that emergency exactly if each
deletion that another one follows left it ranked at the row. The next deletion
addresses it exactly if all of them did. -/
theorem addressed_iff {device : Device} {emergency : RowKey} {row : Nat} {loadedAt : Date}
    {start screens : EmergencyScreens} {history : List (Performed EmergencyScreens ScreenEvent)}
    (loaded : start.emergencyTypes = loadData device loadedAt start.stores)
    (shown : Addresses emergency row start) (closed : start.response = none)
    (runs : Runs (Step device emergency row) start history screens) :
    row < screens.emergencyTypes.length ∧
    ((∀ performed ∈ history, Deletes performed → Addresses emergency row performed.before) ↔
      history.Pairwise fun earlier later =>
        Deletes earlier → Deletes later → KeepsPlace device emergency row earlier) ∧
    ((∀ performed ∈ history, Deletes performed → Addresses emergency row performed.before) →
      (Addresses emergency row screens ↔
        ∀ performed ∈ history, Deletes performed → KeepsPlace device emergency row performed)) := by
  obtain ⟨emergencies, stored⟩ :
      ∃ keys, start.stores.tables.emergencies.map EmergencyRow.key = keys := ⟨_, rfl⟩
  have listed : start.emergencyTypes.Perm emergencies :=
    loaded ▸ stored ▸ loadData_perm device loadedAt start.stores
  have coherent : Coherent device emergencies start :=
    ⟨listed, stored, by simp [closed], by simp [closed]⟩
  have preserved : ∀ {before event after}, Coherent device emergencies before →
      Step device emergency row before event after → Coherent device emergencies after :=
    fun coherent step => step.coherent coherent
  have reached := (runs.invariant (Coherent device emergencies) preserved coherent).1
  obtain ⟨inRange, -⟩ := List.getElem?_eq_some_iff.mp shown
  refine ⟨?_, runs.guarded_iff (Coherent device emergencies) (Addresses emergency row) coherent
    shown preserved ?_ ?_⟩
  · rwa [reached.listed.length_eq, ← listed.length_eq]
  · intro performed _ step idle
    rw [Addresses, Addresses, emergencyTypes_of_not_deletes step idle]
  · intro performed _ step deletes
    exact addresses_after_iff step deletes

/-- An emergency with three responses in January, beside one with a single
response, is still at the first row when two of its own have been deleted. -/
theorem addressed_iff_three :
    let device := Device.gmt ""
    let now := seconds 864000
    let two := (Tables.empty.insertEmergency "Fire").insertEmergency "Flood"
    let latest : ResponseRow := ⟨4, ⟨"9", "", seconds 259200⟩⟩
    let middle : ResponseRow := ⟨3, ⟨"8", "", seconds 172800⟩⟩
    let tables := (((two.appendNew 0 ⟨"7", "", seconds 86400⟩).appendNew 0 middle.value).appendNew 0
      latest.value).appendNew 1 ⟨"10", "", seconds 86400⟩
    let start : EmergencyScreens := ⟨⟨⟨tables, none⟩, {}⟩, [0, 1], none⟩
    let opened := { start with response := some (.update device now now 0 (some latest)) }
    let stores : Stores := ⟨⟨tables.deleteResponses (· == 4), none⟩, {}⟩
    let left : EmergencyScreens := ⟨stores, loadData device now stores, none⟩
    let again := { left with response := some (.update device now now 0 (some middle)) }
    let fewest : Stores := ⟨⟨stores.tables.deleteResponses (· == 3), none⟩, {}⟩
    let last : EmergencyScreens := ⟨fewest, loadData device now fewest, none⟩
    ∀ performed ∈ [
      (⟨start, .didSelectRow 0 now, opened⟩ : Performed EmergencyScreens ScreenEvent),
      ⟨opened, .onDelete now true, left⟩,
      ⟨left, .didSelectRow 0 now, again⟩,
      ⟨again, .onDelete now true, last⟩],
      Deletes performed → Addresses 0 0 performed.before := by
  intro device now two latest middle tables start opened stores left again fewest last
  have loaded : start.emergencyTypes = loadData device now start.stores := by decide +kernel
  have addressed : Addresses 0 0 start := rfl
  have addressedAgain : Addresses 0 0 again := by
    unfold Addresses
    decide +kernel
  have first : Step device 0 0 start (.didSelectRow 0 now) opened := rfl
  have second : Step device 0 0 opened (.onDelete now true) left := rfl
  have third : Step device 0 0 left (.didSelectRow 0 now) again := rfl
  have fourth : Step device 0 0 again (.onDelete now true) last := by
    rw [Step, handle, onDelete_of_addresses rfl rfl addressedAgain]
    rfl
  apply (addressed_iff loaded addressed rfl
    (.step (.step (.step (.step .initial first) second) third) fourth)).2.1.mpr
  have selects : ∀ before after, ¬ Deletes ⟨before, .didSelectRow 0 now, after⟩ := by
    rintro before after ⟨_, _, ⟨⟩⟩
  have kept : KeepsPlace device 0 0 ⟨opened, .onDelete now true, left⟩ := by
    rintro _ _ ⟨⟩ _ ⟨⟩ _ ⟨⟩
    decide +kernel
  simp [selects, kept]

/-- Two emergencies with two responses each in January. Once the first has lost
one it is listed second, and the next deletion addresses the other. -/
theorem addressed_fails :
    ¬ ∀ emergency row loadedAt start screens history,
      start.emergencyTypes = loadData (Device.gmt "") loadedAt start.stores →
      Addresses emergency row start → start.response = none →
      Runs (Step (Device.gmt "") emergency row) start history screens →
      ∀ performed ∈ history, Deletes performed → Addresses emergency row performed.before := by
  intro always
  let device := Device.gmt ""
  let now := seconds 864000
  let two := (Tables.empty.insertEmergency "Fire").insertEmergency "Flood"
  let earlier : ResponseRow := ⟨2, ⟨"7", "", seconds 86400⟩⟩
  let later : ResponseRow := ⟨3, ⟨"8", "", seconds 172800⟩⟩
  let tables := (((two.appendNew 0 earlier.value).appendNew 0 later.value).appendNew 1
    ⟨"9", "", seconds 86400⟩).appendNew 1 ⟨"10", "", seconds 86400⟩
  let start : EmergencyScreens := ⟨⟨⟨tables, none⟩, {}⟩, [0, 1], none⟩
  let opened := { start with response := some (.update device now now 0 (some later)) }
  let stores : Stores := ⟨⟨tables.deleteResponses (· == 3), none⟩, {}⟩
  let left : EmergencyScreens := ⟨stores, loadData device now stores, none⟩
  let again := { left with response := some (.update device now now 0 (some earlier)) }
  let fewest : Stores := ⟨⟨stores.tables.deleteResponses (· == 2), none⟩, {}⟩
  let last : EmergencyScreens := ⟨fewest, loadData device now fewest, none⟩
  have loaded : start.emergencyTypes = loadData device now start.stores := by decide +kernel
  have addressed : Addresses 0 0 start := rfl
  have other : Addresses 1 0 again := by
    unfold Addresses
    decide +kernel
  have first : Step device 0 0 start (.didSelectRow 0 now) opened := rfl
  have second : Step device 0 0 opened (.onDelete now true) left := rfl
  have third : Step device 0 0 left (.didSelectRow 0 now) again := rfl
  have fourth : Step device 0 0 again (.onDelete now true) last := by
    rw [Step, handle, onDelete_of_addresses rfl rfl other]
    rfl
  have same := always 0 0 now start last _ loaded addressed rfl
    (.step (.step (.step (.step .initial first) second) third) fourth)
    ⟨again, .onDelete now true, last⟩ (by simp) ⟨now, true, rfl⟩
  exact absurd (same.symm.trans other) (by decide)

end ResponseTracker
