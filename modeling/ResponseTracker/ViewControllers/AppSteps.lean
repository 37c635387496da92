import ResponseTracker.ViewControllers.App

/-!
# What a gesture comes to

Each gesture asks the data manager for one operation at most, may load the list
and shows a screen. `App.comes` says that it does nothing else in every coherent
state, and that it leaves a coherent one. `Coherent` is the invariant of the
screens: the list was loaded from what is stored, and every open screen is about
objects that still are.
-/

namespace ResponseTracker

open AlertFactory DataManager

/-- What Save asks for: the object handed over when the focus is lost. -/
def EditSession.request (session : EditSession) : Option Mutation := do
  let session ← session.endEditing
  match session.screen.response with
  | none => some (.addResponse session.screen.editResponse session.screen.emergency)
  | some response => session.edited.map (.updateResponse response)

/-- A mutation reports a success, also if its commit fails, unless it is
`clearAllData`. -/
def Mutation.reports (rejected commits : Bool) : Mutation → Bool
  | .clearAllData => commits && !rejected
  | _ => !rejected

namespace App

/-- The operation that a gesture asks for. -/
def request (app : App) (event : UserEvent) : Option Action :=
  match app.screen, event.gesture with
  | none, .onAddCall emergencyType =>
      if emergencyType = "" then none
      else some (.mutate (.addEmergency (.unmanaged ⟨emergencyType, []⟩)))
  | none, .onResponded index =>
      app.list.emergencyTypes[index]?.map fun emergency =>
        .mutate (.addResponse (.unmanaged ⟨"", "", event.now⟩) emergency)
  | some (.emergency ⟨emergencyCall, _, _, _, none⟩), .onEdit newName =>
      if newName = "" then none else some (.mutate (.updateEmergency emergencyCall newName))
  | some (.emergency ⟨emergencyCall, _, _, _, none⟩), .onDeleteEmergency =>
      some (.mutate (.removeEmergency emergencyCall))
  | some (.emergency ⟨_, _, _, _, some response⟩), .onSave =>
      (EditSession.mk response app.stores).request.map .mutate
  | some (.emergency ⟨_, row, _, _, some response⟩), .onDeleteResponse => do
      let removed ← response.response
      let emergency ← app.list.emergencyTypes[row]?
      some (.mutate (.removeResponse removed emergency))
  | some (.newResponse response), .onSave =>
      (EditSession.mk response app.stores).request.map .mutate
  | some (.points _), .onAddPoints text => some (.manuallyAdd (showAddPointsAlert text))
  | some (.points _), .onResetPoints => some .clearPoints
  | some (.points _), .onClearData => some (.mutate .clearAllData)
  | _, _ => none

/-- The gesture loads the list. -/
def loads (device : Device) (app : App) (event : UserEvent) : Bool :=
  match app.screen, event.gesture with
  | none, .onAddCall emergencyType =>
      emergencyType ≠ "" && !app.stores.tables.taken device emergencyType
  | none, .onResponded _ => true
  | some (.emergency ⟨_, _, _, _, none⟩), .onDeleteEmergency => true
  | some (.emergency ⟨_, _, _, _, none⟩), .back => true
  | some (.emergency ⟨_, _, _, _, some _⟩), .onDeleteResponse => true
  | some (.newResponse _), .onSave => true
  | some (.newResponse _), .back => true
  | some (.points _), .onClearData => event.commits
  | some (.points _), .back => true
  | _, _ => false

/-- Added points fit onto the figures, and an export runs to its end. -/
def completes (device : Device) (app : App) (event : UserEvent) : Bool :=
  match app.screen, event.gesture with
  | some (.points points), .onAddPoints text =>
      (points.increaseCurrent? (showAddPointsAlert text)).isSome
  | some (.points _), .onExportData => (csv device app.stores event.now).isSome
  | _, _ => true

/-- The stores after the operation a gesture asks for. -/
def storesAfter (device : Device) (app : App) (event : UserEvent) : Option Stores :=
  match app.request event with
  | none => some app.stores
  | some action => (action.perform device event.now event.commits app.stores).map Prod.fst

/-- The list after a gesture, loaded anew from given stores if the gesture loads it. -/
def listAfter (device : Device) (app : App) (event : UserEvent) (stores : Stores) :
    Option EmergencyList :=
  if app.loads device event then EmergencyList.loadData device event.now stores else some app.list

/-- The operation, the list and a screen. -/
def comesTo (device : Device) (app : App) (event : UserEvent) (screen : Option Screen) :
    Option App := do
  let stores ← app.storesAfter device event
  let list ← app.listAfter device event stores
  if app.completes device event then some { stores, list, screen } else none

end App

/-- The list was loaded from what is stored now. -/
structure EmergencyList.Current (device : Device) (stores : Stores) (now : Date)
    (list : EmergencyList) : Prop where
  emergencyTypes : list.emergencyTypes = EmergencyScreens.loadData device now stores
  points : list.points = getPoints device stores now
  showEmptyData : list.showEmptyData = (list.emergencyTypes.length == 0)

/-- The details are those of a stored emergency, opened at a row of the list of
all of them, and a response screen above edits a copy of one of its responses. -/
structure EmergencyDetails.Coherent (device : Device) (stores : Stores) (list : EmergencyList)
    (details : EmergencyDetails) : Prop where
  listed : list.emergencyTypes.Perm (stores.tables.emergencies.map EmergencyRow.key)
  inRange : details.row < list.emergencyTypes.length
  shown : ∃ row, stores.tables.emergency? details.emergencyCall = some row ∧
    ∀ response ∈ details.response, ∃ key ∈ row.responses, response.response = some key
  copied : ∀ response ∈ details.response, ∃ value, EditSession.Agrees device response value

/-- The screen adds a copy to a stored emergency. -/
structure ResponseDetails.New (device : Device) (stores : Stores) (response : ResponseDetails) :
    Prop where
  adds : response.response = none
  stored : (stores.tables.emergency? response.emergency).isSome
  copied : ∃ value, EditSession.Agrees device response value

/-- The invariant of the screens. The list, when it is shown, was loaded from what
is stored, and a screen above it is about stored objects. The points screen is
about figures only. -/
def App.Coherent (device : Device) (app : App) : Prop :=
  match app.screen with
  | none => ∃ instant, app.list.Current device app.stores instant
  | some (.emergency details) => details.Coherent device app.stores app.list
  | some (.newResponse response) => response.New device app.stores
  | some (.points _) => True

/-! ## Loading the list -/

section List

variable {device : Device} {now : Date} {before after : Stores} {list : EmergencyList}

/-- The list can be loaded exactly if the totals fit, and is then current. -/
theorem EmergencyList.loadData_eq_some_iff :
    EmergencyList.loadData device now before = some list ↔
      TotalsFit device before.defaults before.tables now now now ∧
        list.Current device before now := by
  simp only [loadData, Option.bind_eq_bind, Option.bind_eq_some_iff, loadPoints?_eq_some_iff,
    Option.some.injEq]
  constructor
  · rintro ⟨points, ⟨fits, rfl⟩, rfl⟩
    exact ⟨fits, rfl, rfl, rfl⟩
  · obtain ⟨emergencyTypes, points, showEmptyData⟩ := list
    rintro ⟨fits, rfl, rfl, shown⟩
    exact ⟨_, ⟨fits, rfl⟩, congrArg (EmergencyList.mk _ _) shown.symm⟩

/-- What the list shows does not depend on whether it was committed. -/
theorem EmergencyList.Current.congr (current : list.Current device before now)
    (tables : after.tables = before.tables) (defaults : after.defaults = before.defaults) :
    list.Current device after now := by
  obtain ⟨emergencyTypes, points, showEmptyData⟩ := current
  refine ⟨?_, ?_, showEmptyData⟩
  · rw [emergencyTypes, EmergencyScreens.loadData, EmergencyScreens.loadData, tables, defaults]
  · rw [points, getPoints, getPoints, tables, defaults]

/-- A current list has every stored emergency once. -/
theorem EmergencyList.Current.listed (current : list.Current device before now) :
    list.emergencyTypes.Perm (before.tables.emergencies.map EmergencyRow.key) :=
  current.emergencyTypes ▸ EmergencyScreens.loadData_perm device now before

/-- A listed emergency is stored. -/
theorem EmergencyList.stored_of_listed {index : Nat} {emergency : RowKey}
    (listed : list.emergencyTypes.Perm (before.tables.emergencies.map EmergencyRow.key))
    (selected : list.emergencyTypes[index]? = some emergency) :
    (before.tables.emergency? emergency).isSome :=
  Tables.emergency?_isSome.mpr (listed.mem_iff.mp (List.mem_of_getElem? selected))

end List

/-! ## Operations of the screens -/

section Operations

variable {device : Device} {now : Date} {commits : Bool} {before after : Stores}
  {mutation : Mutation} {calls : List Callback}

/-- Whether some callback of a mutation carries no error is what it reports. -/
theorem Mutation.calls_any (rejected commits : Bool) (mutation : Mutation) :
    ((mutation.calls rejected commits).any fun call => call.error.isNone) =
      mutation.reports rejected commits := by
  cases mutation <;> cases rejected <;> cases commits <;> rfl

/-- The callbacks of a mutation tell what it reports. -/
theorem Mutation.perform_any
    (performed : mutation.perform device now commits before = some (after, calls)) :
    (calls.any fun call => call.error.isNone) =
      mutation.reports (mutation.rejected device before.tables) commits := by
  obtain ⟨-, -, -, -, rfl⟩ := perform_cases device now commits performed
  exact Mutation.calls_any _ _ mutation

/-- Loading the list after the callbacks is loading it if a success was reported. -/
theorem App.perform_reloadAfter (mutation : Mutation) (list : EmergencyList)
    (screen : Option Screen) :
    ((mutation.perform device now commits before).bind fun performed =>
        (App.mk performed.1 list screen).reloadAfter device now performed.2) =
      ((mutation.perform device now commits before).map Prod.fst).bind fun stores =>
        (if mutation.reports (mutation.rejected device before.tables) commits then
            EmergencyList.loadData device now stores
          else some list).bind fun list => some { stores, list, screen } := by
  cases performed : mutation.perform device now commits before with
  | none => rfl
  | some performed' =>
      obtain ⟨stores, calls⟩ := performed'
      rw [Option.bind_some, reloadAfter, Mutation.perform_any performed, Option.map_some,
        Option.bind_some]
      split <;> rfl

/-- Nothing but adding, removing and clearing changes which emergencies are stored. -/
def Mutation.KeepsEmergencies : Mutation → Prop
  | .addEmergency _ | .removeEmergency _ | .clearAllData => False
  | _ => True

/-- A mutation that keeps the emergencies keeps their rows in place. -/
theorem Mutation.requested_emergencies {tables contents : Tables}
    (keeps : mutation.KeepsEmergencies) (asked : mutation.requested tables = some contents) :
    contents.emergencies.map EmergencyRow.key = tables.emergencies.map EmergencyRow.key := by
  cases mutation with
  | addEmergency emergency => exact absurd keeps id
  | addResponse response emergency =>
      obtain ⟨key, appended⟩ := requested_addResponse asked
      rcases Tables.append_eq_some appended with ⟨-, ⟨value, -, rfl, -⟩ | ⟨stored, -, rfl⟩⟩
      · exact Tables.appendNew_emergencies_key emergency value
      · exact RowTable.map_key_map (Tables.updatedRow_key _ _ _) _
  | removeResponse response emergency =>
      rw [requested_removeResponse asked]
      exact RowTable.map_key_map (Tables.unlinkedRow_key _) _
  | updateResponse response newValue =>
      rw [Tables.setResponse_eq_some asked]
      rfl
  | updateEmergency emergency newName =>
      obtain ⟨row, -, rfl⟩ := Tables.setType_eq_some asked
      exact RowTable.map_key_map (Tables.updatedRow_key _ _ _) _
  | removeEmergency emergency => exact absurd keeps id
  | clearAllData => exact absurd keeps id

/-- A mutation that is performed keeps them too, whatever becomes of its commit. -/
theorem Mutation.perform_emergencies (keeps : mutation.KeepsEmergencies)
    (performed : mutation.perform device now commits before = some (after, calls)) :
    after.tables.emergencies.map EmergencyRow.key =
      before.tables.emergencies.map EmergencyRow.key := by
  obtain ⟨-, contents, asked, rfl, -⟩ := perform_cases device now commits performed
  rw [tables_settled, Mutation.staged]
  split
  · rfl
  · exact Mutation.requested_emergencies keeps asked

namespace EditSession

variable {session left : EditSession}

/-- An assignment to the edited object does not turn to another emergency. -/
theorem assign_emergency {change : Response → Response}
    (assigned : session.assign change = some left) :
    left.screen.emergency = session.screen.emergency := by
  rw [assign] at assigned
  split at assigned
  · obtain rfl := Option.some.inj assigned
    rfl
  · simp only [Option.bind_eq_bind, Option.bind_eq_some_iff] at assigned
    obtain ⟨_, _, _, _, same⟩ := assigned
    obtain rfl := Option.some.inj same
    rfl

/-- Losing the focus does not turn to another emergency. -/
theorem endEditing_emergency (ended : session.endEditing = some left) :
    left.screen.emergency = session.screen.emergency := by
  unfold endEditing at ended
  split at ended
  · obtain rfl := Option.some.inj ended
    rfl
  · simp only [textFieldDidEndEditing] at ended
    have kept := assign_emergency ended
    exact kept
  · simp only [textViewDidEndEditing] at ended
    have kept := assign_emergency ended
    exact kept

/-- No event of the inputs turns to another emergency. -/
theorem handle_emergency {event : DetailsEvent}
    (handled : session.handle device event = some left) :
    left.screen.emergency = session.screen.emergency := by
  cases event with
  | beginEditing input =>
      rw [handle, becomeFirstResponder] at handled
      split at handled
      · obtain rfl := Option.some.inj handled
        rfl
      · simp only [Option.bind_eq_bind, Option.bind_eq_some_iff] at handled
        obtain ⟨ended, resigned, same⟩ := handled
        obtain rfl := Option.some.inj same
        have kept := endEditing_emergency resigned
        exact kept
  | type text =>
      obtain rfl := Option.some.inj handled
      rw [type]
      split <;> rfl
  | textFieldShouldReturn =>
      rw [handle, resignFirstResponder] at handled
      split at handled
      · exact endEditing_emergency handled
      · obtain rfl := Option.some.inj handled
        rfl
  | onDoneButton =>
      rw [handle, resignFirstResponder] at handled
      split at handled
      · exact endEditing_emergency handled
      · obtain rfl := Option.some.inj handled
        rfl
  | onChangeDate =>
      obtain rfl := Option.some.inj handled
      rfl
  | onDatePicker date =>
      simp only [handle, onDatePicker, Option.bind_eq_bind, Option.bind_eq_some_iff] at handled
      obtain ⟨picked, assigned, same⟩ := handled
      obtain rfl := Option.some.inj same
      have kept := assign_emergency assigned
      exact kept

end EditSession

section Saves

variable {response : ResponseDetails} {value : Response}

/-- Save asks for what is shown, with the date of the copy. -/
theorem EditSession.request_eq (agrees : Agrees device response value) (stores : Stores) :
    (EditSession.mk response stores).request = some
      (let shown : Response := ⟨response.incidentNumber, response.incidentDetails, value.date⟩
      match response.response with
      | none => .addResponse (.unmanaged shown) response.emergency
      | some edited => .updateResponse edited shown) := by
  have agreeing : Agrees device (EditSession.mk response stores).screen value := agrees
  rw [request, endEditing_eq agreeing]
  cases editing : response.response with
  | none => simp [settled, editing]
  | some edited => simp [settled, editing, EditSession.edited]

/-- Save performs what it asks for. -/
theorem EditSession.onSave_eq_perform (agrees : Agrees device response value) (stores : Stores)
    (now : Date) (commits : Bool) :
    (EditSession.mk response stores).onSave commits =
      (EditSession.mk response stores).request.bind fun mutation =>
        mutation.perform device now commits stores := by
  have agreeing : Agrees device (EditSession.mk response stores).screen value := agrees
  rw [request_eq agrees, onSave, endEditing_eq agreeing]
  cases editing : response.response with
  | none => simp [settled, editing, Mutation.perform]
  | some edited => simp [settled, editing, EditSession.edited, Mutation.perform]

end Saves

end Operations

/-! ## Coherent screens -/

section Screens

variable {device : Device} {before after : Stores} {list other : EmergencyList}
  {details : EmergencyDetails}

/-- Without a response screen, details stay coherent with any list of the same
emergencies. -/
theorem EmergencyDetails.Coherent.closed {title : String}
    (coherent : details.Coherent device before list)
    (keys : after.tables.emergencies.map EmergencyRow.key =
      before.tables.emergencies.map EmergencyRow.key)
    (listed : other.emergencyTypes.Perm (after.tables.emergencies.map EmergencyRow.key)) :
    EmergencyDetails.Coherent device after other { details with title, response := none } := by
  obtain ⟨before, inRange, ⟨row, found, -⟩, -⟩ := coherent
  refine ⟨listed, ?_, ?_, by simp⟩
  · rwa [listed.length_eq, keys, ← before.length_eq]
  · have stored := Tables.emergency?_isSome.mp (Option.isSome_iff_exists.mpr ⟨row, found⟩)
    rw [← keys] at stored
    obtain ⟨left, leads⟩ := Option.isSome_iff_exists.mp (Tables.emergency?_isSome.mpr stored)
    exact ⟨left, leads, by simp⟩

/-- The sorted responses of an emergency are those in its list. -/
theorem Tables.responseSortedByDate_perm {tables : Tables} {row : EmergencyRow}
    (member : row ∈ tables.emergencies) :
    ((tables.responseSortedByDate row).map ResponseRow.key).Perm row.responses := by
  have sorted : (tables.responseSortedByDate row).Perm (row.responses.filterMap tables.response?) :=
    List.perm_insertionSort _ _
  have keys : ∀ link ∈ row.responses,
      (tables.response? link).map ResponseRow.key = some link := by
    intro link linked
    obtain ⟨response, stored, rfl⟩ := link_stored member linked
    rw [response?_of_mem stored]
    rfl
  have linked := sorted.map ResponseRow.key
  rwa [List.map_filterMap, List.filterMap_congr keys, List.filterMap_some] at linked

end Screens

namespace App

variable {device : Device} {app : App} {event : UserEvent}

/-- A mutation with the callback that loads the list. -/
theorem comesTo_of_mutate {mutation : Mutation} (asks : app.request event = some (.mutate mutation))
    (loads : app.loads device event =
      mutation.reports (mutation.rejected device app.stores.tables) event.commits)
    (completes : app.completes device event = true) (screen : Option Screen) :
    ((mutation.perform device event.now event.commits app.stores).bind fun performed =>
        (App.mk performed.1 app.list screen).reloadAfter device event.now performed.2) =
      app.comesTo device event screen := by
  simp only [perform_reloadAfter, comesTo, storesAfter, listAfter, asks, loads, completes,
    Action.perform, Option.bind_eq_bind, if_true]

/-- A gesture that asks for nothing and loads nothing. -/
theorem comesTo_of_idle (idle : app.request event = none) (loads : app.loads device event = false)
    (completes : app.completes device event = true) (screen : Option Screen) :
    app.comesTo device event screen = some { app with screen } := by
  simp [comesTo, storesAfter, listAfter, idle, loads, completes]

/-- A gesture that asks for nothing and loads the list. -/
theorem comesTo_of_loads (idle : app.request event = none) (loads : app.loads device event = true)
    (completes : app.completes device event = true) (screen : Option Screen) :
    app.comesTo device event screen = { app with screen }.reloadData device event.now := by
  simp [comesTo, storesAfter, listAfter, idle, loads, completes, reloadData]

/-! ## Gestures on the list -/

/-- Adding an emergency does nothing on an empty text, and loads the list unless
the type is taken. -/
theorem onAddCall_eq (stores : Stores) (list : EmergencyList) (emergencyType : String) (now : Date)
    (commits : Bool) :
    (App.mk stores list none).onAddCall device now commits emergencyType =
      (App.mk stores list none).comesTo device ⟨.onAddCall emergencyType, now, commits⟩ none := by
  by_cases empty : emergencyType = ""
  · rw [comesTo_of_idle (by simp [request, empty]) (by simp [loads, empty]) rfl, onAddCall,
      if_pos empty]
  · have asks : (App.mk stores list none).request ⟨.onAddCall emergencyType, now, commits⟩ =
        some (.mutate (.addEmergency (.unmanaged ⟨emergencyType, []⟩))) := if_neg empty
    rw [onAddCall, if_neg empty]
    refine comesTo_of_mutate asks ?_ rfl none
    simp [loads, empty, Mutation.reports, Mutation.rejected, Tables.typeOf]

/-- "Done" adds an empty response dated now and loads the list. -/
theorem onResponded_eq {stores : Stores} {list : EmergencyList} {index : Nat} {emergency : RowKey}
    (selected : list.emergencyTypes[index]? = some emergency)
    (stored : (stores.tables.emergency? emergency).isSome) (now : Date) (commits : Bool) :
    (App.mk stores list none).onResponded device now commits index =
      (App.mk stores list none).comesTo device ⟨.onResponded index, now, commits⟩ none := by
  have asks : (App.mk stores list none).request ⟨.onResponded index, now, commits⟩ =
      some (.mutate (.addResponse (.unmanaged ⟨"", "", now⟩) emergency)) := by
    simp [request, selected]
  obtain ⟨row, found⟩ := Option.isSome_iff_exists.mp stored
  simp only [onResponded, selected, found, Option.bind_eq_bind, Option.bind_some]
  exact comesTo_of_mutate asks rfl rfl none

/-- "Details" opens the response screen on a copy and asks for nothing. -/
theorem showResponseDetails_eq {stores : Stores} {list : EmergencyList} {index : Nat}
    {emergency : RowKey} (selected : list.emergencyTypes[index]? = some emergency)
    (stored : (stores.tables.emergency? emergency).isSome) (now : Date) (commits : Bool) :
    (App.mk stores list none).showResponseDetails device now index =
      (App.mk stores list none).comesTo device ⟨.showResponseDetails index, now, commits⟩
        (some (.newResponse (.update device now now emergency none))) := by
  obtain ⟨row, found⟩ := Option.isSome_iff_exists.mp stored
  rw [comesTo_of_idle rfl rfl rfl, showResponseDetails]
  simp [selected, found]

/-- Selecting a row opens the details of its emergency as they are stored. -/
theorem didSelectEmergency_eq {stores : Stores} {list : EmergencyList} {index : Nat}
    {emergency : RowKey} {row : EmergencyRow}
    (selected : list.emergencyTypes[index]? = some emergency)
    (found : stores.tables.emergency? emergency = some row) (now : Date) (commits : Bool) :
    (App.mk stores list none).didSelectEmergency index =
      (App.mk stores list none).comesTo device ⟨.didSelectEmergency index, now, commits⟩
        (some (.emergency ⟨emergency, index, row.type, row.responses.length == 0, none⟩)) := by
  rw [comesTo_of_idle rfl rfl rfl]
  simp [didSelectEmergency, selected, found]

/-! ## Gestures on the details of an emergency -/

/-- Renaming performs the rename and changes the title, but leaves the list as it was loaded. -/
theorem onEdit_eq (stores : Stores) (list : EmergencyList) (emergencyCall : RowKey) (row : Nat)
    (title : String) (showEmptyData : Bool) (newName : String) (now : Date) (commits : Bool) :
    let details : EmergencyDetails := ⟨emergencyCall, row, title, showEmptyData, none⟩
    let app : App := ⟨stores, list, some (.emergency details)⟩
    app.onEdit commits newName details =
      app.comesTo device ⟨.onEdit newName, now, commits⟩ (some (.emergency
        { details with title := if newName = "" then title else newName })) := by
  intro details app
  by_cases empty : newName = ""
  · rw [comesTo_of_idle (by simp [request, app, details, empty]) rfl rfl, onEdit, if_pos empty,
      if_pos empty]
  · have asks : app.request ⟨.onEdit newName, now, commits⟩ =
        some (.mutate (.updateEmergency emergencyCall newName)) := if_neg empty
    rw [onEdit, if_neg empty, if_neg empty, comesTo, storesAfter, asks]
    have performs : updateEmergency emergencyCall newName commits stores =
        (Mutation.updateEmergency emergencyCall newName).perform device now commits stores := rfl
    simp only [performs, details, app, Option.bind_eq_bind, Action.perform]
    cases performed : (Mutation.updateEmergency emergencyCall newName).perform device now commits
        stores with
    | none => rfl
    | some performed' =>
        obtain ⟨after, calls⟩ := performed'
        have reported : (calls.any fun call => call.error.isNone) = true :=
          Mutation.perform_any performed
        simp only [Option.bind_some, reported, if_true, Option.map_some]
        rfl

/-- Deleting an emergency comes back to the list, which loads. -/
theorem onDeleteEmergency_eq (stores : Stores) (list : EmergencyList) (emergencyCall : RowKey)
    (row : Nat) (title : String) (showEmptyData : Bool) (now : Date) (commits : Bool) :
    let details : EmergencyDetails := ⟨emergencyCall, row, title, showEmptyData, none⟩
    let app : App := ⟨stores, list, some (.emergency details)⟩
    app.onDeleteEmergency device now commits details =
      app.comesTo device ⟨.onDeleteEmergency, now, commits⟩ none := by
  intro details app
  have asks : app.request ⟨.onDeleteEmergency, now, commits⟩ =
      some (.mutate (.removeEmergency emergencyCall)) := rfl
  rw [← comesTo_of_mutate asks rfl rfl none, onDeleteEmergency]
  have performs : removeEmergency emergencyCall commits stores =
      (Mutation.removeEmergency emergencyCall).perform device now commits stores := rfl
  simp only [performs, details, app, Option.bind_eq_bind]
  cases performed : (Mutation.removeEmergency emergencyCall).perform device now commits stores with
  | none => rfl
  | some performed' =>
      obtain ⟨after, calls⟩ := performed'
      have reported : (calls.any fun call => call.error.isNone) = true :=
        Mutation.perform_any performed
      simp only [Option.bind_some, reloadAfter, reported, if_true]

/-- A selected response is one of the emergency's list. -/
theorem didSelectResponse_eq {stores : Stores} {list : EmergencyList} {emergencyCall : RowKey}
    {selected : EmergencyRow} {index : Nat}
    (found : stores.tables.emergency? emergencyCall = some selected)
    (inRange : index < selected.responses.length) (row : Nat) (title : String)
    (showEmptyData : Bool) (now : Date) (commits : Bool) :
    let details : EmergencyDetails := ⟨emergencyCall, row, title, showEmptyData, none⟩
    let app : App := ⟨stores, list, some (.emergency details)⟩
    ∃ response : ResponseRow, response.key ∈ selected.responses ∧
      app.didSelectResponse device now index details =
        app.comesTo device ⟨.didSelectResponse index, now, commits⟩ (some (.emergency
          { details with
            response := some (.update device now now emergencyCall (some response)) })) := by
  intro details app
  have sorted := Tables.responseSortedByDate_perm (Tables.emergency?_eq_some found).1
  have within : index < (stores.tables.responseSortedByDate selected).length := by
    rw [← List.length_map ResponseRow.key, sorted.length_eq]
    exact inRange
  have opened := List.getElem?_eq_getElem within
  refine ⟨(stores.tables.responseSortedByDate selected)[index], ?_, ?_⟩
  · exact sorted.mem_iff.mp (List.mem_map_of_mem (List.getElem_mem within))
  · rw [comesTo_of_idle rfl rfl rfl, didSelectResponse]
    simp [app, details, found, opened]

/-! ## Gestures on the response screen -/

/-- An event of the inputs leaves stores and list, and the screen agrees with the copy it edits. -/
theorem edit_eq {stores : Stores} {list : EmergencyList} {response : ResponseDetails}
    {value : Response} (agrees : EditSession.Agrees device response value) (event : DetailsEvent)
    (place : ResponseDetails → Screen) (placed : Screen) :
    ∃ after changed, EditSession.Agrees device after changed ∧
      changed.date = EditSession.dateAfter value.date event ∧
      after.response = response.response ∧ after.emergency = response.emergency ∧
      (App.mk stores list (some placed)).edit device event response place =
        some ⟨stores, list, some (place after)⟩ := by
  have agreeing : EditSession.Agrees device (EditSession.mk response stores).screen value := agrees
  obtain ⟨session, changed, handled, agreesAfter, date, sameStores, sameResponse⟩ :=
    EditSession.handle_agrees agreeing event
  refine ⟨session.screen, changed, agreesAfter, date, sameResponse,
    EditSession.handle_emergency handled, ?_⟩
  simp [edit, handled, sameStores]

/-- Saving an edited response comes back to the details without loading the list. -/
theorem saveChanged_eq {response : ResponseDetails} {value : Response}
    (agrees : EditSession.Agrees device response value) (stores : Stores) (list : EmergencyList)
    (emergencyCall : RowKey) (row : Nat) (title : String) (showEmptyData : Bool) (now : Date)
    (commits : Bool) :
    let details : EmergencyDetails := ⟨emergencyCall, row, title, showEmptyData, some response⟩
    let app : App := ⟨stores, list, some (.emergency details)⟩
    app.saveChanged commits details response =
      app.comesTo device ⟨.onSave, now, commits⟩
        (some (.emergency { details with response := none })) := by
  intro details app
  have asked := EditSession.request_eq agrees stores
  have saves := EditSession.onSave_eq_perform agrees stores now commits
  rw [asked, Option.bind_some] at saves
  simp only [saveChanged, app, details, saves, comesTo, storesAfter, request, asked,
    Option.map_some, Action.perform, listAfter, loads, completes, Option.bind_eq_bind,
    Option.bind_map, Function.comp_def, if_true]
  rfl

/-- Saving a new response comes back to the list, which loads. -/
theorem saveNew_eq {response : ResponseDetails} {value : Response}
    (agrees : EditSession.Agrees device response value) (stores : Stores) (list : EmergencyList)
    (now : Date) (commits : Bool) :
    let app : App := ⟨stores, list, some (.newResponse response)⟩
    app.saveNew device now commits response = app.comesTo device ⟨.onSave, now, commits⟩ none := by
  intro app
  have asked := EditSession.request_eq agrees stores
  have saves := EditSession.onSave_eq_perform agrees stores now commits
  rw [asked, Option.bind_some] at saves
  simp only [saveNew, reloadData, app, saves, comesTo, storesAfter, request, asked, Option.map_some,
    Action.perform, listAfter, loads, completes, Option.bind_eq_bind, Option.bind_map,
    Function.comp_def, if_true]

/-- Deleting a response asks to remove it from the emergency at the captured row of the list. -/
theorem onDeleteResponse_eq {response : ResponseDetails} {removed target : RowKey}
    {list : EmergencyList} {row : Nat} (edits : response.response = some removed)
    (addressed : list.emergencyTypes[row]? = some target) (stores : Stores)
    (emergencyCall : RowKey) (title : String) (showEmptyData : Bool) (now : Date)
    (commits : Bool) :
    let details : EmergencyDetails := ⟨emergencyCall, row, title, showEmptyData, some response⟩
    let app : App := ⟨stores, list, some (.emergency details)⟩
    app.onDeleteResponse device now commits details response =
      app.comesTo device ⟨.onDeleteResponse, now, commits⟩
        (some (.emergency { details with response := none })) := by
  intro details app
  have asks : app.request ⟨.onDeleteResponse, now, commits⟩ =
      some (.mutate (.removeResponse removed target)) := by
    simp [request, app, details, edits, addressed]
  rw [← comesTo_of_mutate asks rfl rfl, onDeleteResponse]
  simp only [app, details, edits, addressed, Option.bind_eq_bind, Option.bind_some]
  rfl

/-- Going back from an edited response stores nothing. -/
theorem leaveChanged_eq {response : ResponseDetails} {value : Response}
    (agrees : EditSession.Agrees device response value) (stores : Stores) (list : EmergencyList)
    (emergencyCall : RowKey) (row : Nat) (title : String) (showEmptyData : Bool) (now : Date)
    (commits : Bool) :
    let details : EmergencyDetails := ⟨emergencyCall, row, title, showEmptyData, some response⟩
    let app : App := ⟨stores, list, some (.emergency details)⟩
    app.leaveChanged details response =
      app.comesTo device ⟨.back, now, commits⟩
        (some (.emergency { details with response := none })) := by
  intro details app
  have agreeing : EditSession.Agrees device (EditSession.mk response stores).screen value := agrees
  rw [comesTo_of_idle rfl rfl rfl]
  simp [leaveChanged, EditSession.leave, EditSession.endEditing_eq agreeing, app,
    EditSession.settled]

/-- Going back from a new response stores nothing, and the list loads. -/
theorem leaveNew_eq {response : ResponseDetails} {value : Response}
    (agrees : EditSession.Agrees device response value) (stores : Stores) (list : EmergencyList)
    (now : Date) (commits : Bool) :
    let app : App := ⟨stores, list, some (.newResponse response)⟩
    app.leaveNew device now response = app.comesTo device ⟨.back, now, commits⟩ none := by
  intro app
  have agreeing : EditSession.Agrees device (EditSession.mk response stores).screen value := agrees
  rw [comesTo_of_loads rfl rfl rfl]
  simp [leaveNew, EditSession.leave, EditSession.endEditing_eq agreeing, app, EditSession.settled]

/-! ## Gestures on the points screen -/

/-- The screen is no matter for what is stored and listed. -/
theorem comesTo_screen (other screen : Option Screen) :
    app.comesTo device event screen =
      (app.comesTo device event other).bind fun app => some { app with screen } := by
  simp only [comesTo, Option.bind_eq_bind, Option.bind_assoc]
  cases app.completes device event <;> simp

/-- Adding points stores a grant and raises the figures shown, if they have room for it. -/
theorem onAddPoints_eq (stores : Stores) (list : EmergencyList) (points : Points) (text : String)
    (now : Date) (commits : Bool) :
    let app : App := ⟨stores, list, some (.points points)⟩
    app.onAddPoints now text points = app.comesTo device ⟨.onAddPoints text, now, commits⟩
      (some (.points (points.increaseCurrent (showAddPointsAlert text)))) := by
  intro app
  cases increased : points.increaseCurrent? (showAddPointsAlert text) with
  | none => simp [onAddPoints, comesTo, storesAfter, request, Action.perform, listAfter, loads,
      completes, app, increased]
  | some figures =>
      have same := (increaseCurrent?_eq_some_iff.mp increased).2.symm
      simp [onAddPoints, comesTo, storesAfter, request, Action.perform, listAfter, loads,
        completes, app, increased, same]

/-- Clearing all data loads the list if the commit succeeds. The figures shown
become zero in any case. -/
theorem onClearData_eq (stores : Stores) (list : EmergencyList) (points : Points) (now : Date)
    (commits : Bool) :
    let app : App := ⟨stores, list, some (.points points)⟩
    app.onClearData device now commits points =
      app.comesTo device ⟨.onClearData, now, commits⟩ (some (.points points.clearPoints)) := by
  intro app
  have asks : app.request ⟨.onClearData, now, commits⟩ = some (.mutate .clearAllData) := rfl
  have reloads : app.loads device ⟨.onClearData, now, commits⟩ =
      Mutation.clearAllData.reports (Mutation.clearAllData.rejected device stores.tables)
        commits := by
    simp [loads, app, Mutation.reports, Mutation.rejected]
  rw [comesTo_screen (some (.points points)), ← comesTo_of_mutate asks reloads rfl, onClearData,
    Option.bind_assoc]
  rfl

/-- An export changes nothing. It ends the process at a grant that is negative or cannot be read. -/
theorem onExportData_eq (stores : Stores) (list : EmergencyList) (points : Points) (now : Date)
    (commits : Bool) :
    let app : App := ⟨stores, list, some (.points points)⟩
    app.onExportData device now commits =
      app.comesTo device ⟨.onExportData, now, commits⟩ (some (.points points)) := by
  intro app
  cases written : csv device stores now with
  | none => simp [onExportData, exportFile, comesTo, storesAfter, request, listAfter, loads,
      completes, app, written]
  | some text =>
      cases commits <;> simp [onExportData, exportFile, comesTo, storesAfter, request, listAfter,
        loads, completes, app, written]

/-! ## Every gesture -/

variable {screen : Option Screen} {after : App}

/-- What a gesture comes to, in its parts. -/
theorem comesTo_eq_some_iff : app.comesTo device event screen = some after ↔
    app.storesAfter device event = some after.stores ∧
      app.listAfter device event after.stores = some after.list ∧
      app.completes device event = true ∧ after.screen = screen := by
  obtain ⟨stores, list, shown⟩ := after
  simp only [comesTo, Option.bind_eq_bind, Option.bind_eq_some_iff, Option.ite_none_right_eq_some,
    Option.some.injEq, App.mk.injEq]
  constructor
  · rintro ⟨_, performed, _, listed, completes, rfl, rfl, rfl⟩
    exact ⟨performed, listed, completes, rfl⟩
  · rintro ⟨performed, listed, completes, rfl⟩
    exact ⟨_, performed, _, listed, completes, rfl, rfl, rfl⟩

/-- A loaded list is current. -/
theorem current_of_loads (loads : app.loads device event = true)
    (reached : app.comesTo device event screen = some after) :
    after.list.Current device after.stores event.now := by
  obtain ⟨-, listed, -, -⟩ := comesTo_eq_some_iff.mp reached
  rw [listAfter, if_pos loads] at listed
  exact (EmergencyList.loadData_eq_some_iff.mp listed).2

/-- Coming back to the list and loading it leaves a coherent state. -/
theorem coherent_of_loads (loads : app.loads device event = true)
    (reached : app.comesTo device event none = some after) : after.Coherent device := by
  have shown := (comesTo_eq_some_iff.mp reached).2.2.2
  rw [Coherent, shown]
  exact ⟨event.now, current_of_loads loads reached⟩

/-- The mutation a gesture asks for has been performed. -/
theorem performed_of_asks {mutation : Mutation}
    (asks : app.request event = some (.mutate mutation))
    (reached : app.comesTo device event screen = some after) :
    ∃ calls, mutation.perform device event.now event.commits app.stores =
      some (after.stores, calls) := by
  have performed := (comesTo_eq_some_iff.mp reached).1
  rw [storesAfter, asks, Option.map_eq_some_iff] at performed
  obtain ⟨⟨stores, calls⟩, performed, same⟩ := performed
  obtain rfl : stores = after.stores := same
  exact ⟨calls, performed⟩

/-- A new response that a gesture asks to add is added, also if it is not committed. -/
theorem appended_of_asks {value : Response} {emergency : RowKey}
    (asks : app.request event = some (.mutate (.addResponse (.unmanaged value) emergency)))
    (reached : app.comesTo device event screen = some after) :
    (app.stores.tables.emergency? emergency).isSome ∧
      after.stores.tables = app.stores.tables.appendNew emergency value ∧
      after.stores.defaults = app.stores.defaults := by
  obtain ⟨calls, performed⟩ := performed_of_asks asks reached
  obtain ⟨-, contents, asked, left, -⟩ := perform_cases device _ _ performed
  obtain ⟨key, appended⟩ := Mutation.requested_addResponse asked
  rcases Tables.append_eq_some appended with ⟨stored, ⟨_, ⟨⟩, rfl, -⟩ | ⟨-, other, -⟩⟩
  · rw [left, tables_settled]
    exact ⟨Option.isSome_iff_exists.mpr stored, rfl, rfl⟩
  · exact absurd other (by simp)

/-- A stored response that a gesture asks to remove is removed, whatever emergency
the removal addresses and also if it is not committed. -/
theorem removed_of_asks {response emergency : RowKey}
    (asks : app.request event = some (.mutate (.removeResponse response emergency)))
    (reached : app.comesTo device event screen = some after) :
    after.stores.tables = app.stores.tables.deleteResponses (· == response) := by
  obtain ⟨calls, performed⟩ := performed_of_asks asks reached
  obtain ⟨-, contents, asked, left, -⟩ := perform_cases device _ _ performed
  rw [left, tables_settled, Mutation.requested_removeResponse asked]
  rfl

/-- A list that is not loaded stays. -/
theorem list_of_not_loads (loads : app.loads device event = false)
    (reached : app.comesTo device event screen = some after) : after.list = app.list := by
  obtain ⟨-, listed, -, -⟩ := comesTo_eq_some_iff.mp reached
  rw [listAfter, if_neg (by simp [loads])] at listed
  exact (Option.some.inj listed).symm

/-- A gesture without an operation leaves the stores and the list. -/
theorem idle_eq (idle : app.request event = none) (loads : app.loads device event = false)
    (reached : app.comesTo device event screen = some after) : after = { app with screen } := by
  obtain ⟨performed, listed, -, shown⟩ := comesTo_eq_some_iff.mp reached
  rw [storesAfter, idle] at performed
  rw [listAfter, if_neg (by simp [loads])] at listed
  obtain ⟨stores, list, screen⟩ := after
  rw [App.mk.injEq]
  exact ⟨(Option.some.inj performed).symm, (Option.some.inj listed).symm, shown⟩

/-- A type that is taken, or none, changes nothing that the list shows, and no
other gesture on the list changes the stores without loading it. -/
theorem current_of_not_loads {stores : Stores} {list : EmergencyList} {instant : Date}
    (current : list.Current device stores instant)
    (offered : (App.mk stores list none).Offers event.gesture)
    (loads : (App.mk stores list none).loads device event = false)
    (reached : (App.mk stores list none).comesTo device event screen = some after) :
    after.list.Current device after.stores instant := by
  obtain ⟨gesture, now, commits⟩ := event
  cases gesture with
  | onAddCall emergencyType =>
      rw [list_of_not_loads loads reached]
      by_cases empty : emergencyType = ""
      · obtain rfl := idle_eq (by simp [request, empty]) loads reached
        exact current
      · have asks : (App.mk stores list none).request ⟨.onAddCall emergencyType, now, commits⟩ =
            some (.mutate (.addEmergency (.unmanaged ⟨emergencyType, []⟩))) := if_neg empty
        obtain ⟨calls, performed⟩ := performed_of_asks asks reached
        obtain ⟨-, contents, -, left, -⟩ := perform_cases device now commits performed
        have rejected : (Mutation.addEmergency (.unmanaged ⟨emergencyType, []⟩)).rejected device
            stores.tables = true := by
          simpa [App.loads, empty, Mutation.rejected, Tables.typeOf] using loads
        rw [left]
        refine current.congr ?_ rfl
        rw [tables_settled, Mutation.staged, if_pos rejected]
  | onResponded index => exact absurd loads (by simp [App.loads])
  | showResponseDetails index | didSelectEmergency index | onShowPoints =>
      obtain rfl := idle_eq rfl loads reached
      exact current
  | _ => exact absurd offered id

/-- Details stay coherent through a mutation that keeps all emergencies, with
the list as it was. -/
theorem details_coherent {mutation : Mutation} {details : EmergencyDetails} {title : String}
    (coherent : details.Coherent device app.stores app.list)
    (asks : app.request event = some (.mutate mutation)) (keeps : mutation.KeepsEmergencies)
    (loads : app.loads device event = false)
    (reached : app.comesTo device event
      (some (.emergency { details with title, response := none })) = some after) :
    after.Coherent device := by
  obtain ⟨calls, performed⟩ := performed_of_asks asks reached
  have keys := Mutation.perform_emergencies keeps performed
  have shown := (comesTo_eq_some_iff.mp reached).2.2.2
  rw [Coherent, shown, list_of_not_loads loads reached]
  refine coherent.closed keys ?_
  rw [keys]
  exact coherent.listed

/-- The title of the details after a gesture on them. -/
def titleAfter (title : String) : Gesture → String
  | .onEdit newName => if newName = "" then title else newName
  | _ => title

/-- Details are opened on the list, as their emergency is stored, or were shown
before. -/
def OpensDetails (app : App) (event : UserEvent) (details : EmergencyDetails) : Prop :=
  (app.screen = none ∧ app.request event = none ∧
    ∃ row, app.stores.tables.emergency? details.emergencyCall = some row ∧
      details.title = row.type ∧ details.showEmptyData = (row.responses.length == 0)) ∨
  ∃ earlier, app.screen = some (.emergency earlier) ∧ event.gesture ≠ .onDeleteEmergency ∧
    details.emergencyCall = earlier.emergencyCall ∧
    details.showEmptyData = earlier.showEmptyData ∧
    details.title = titleAfter earlier.title event.gesture

/-- A gesture comes to its operation, the list and a screen, and leaves the
screens coherent. Back on the list, it has loaded it. -/
def Comes (device : Device) (app : App) (event : UserEvent) : Prop :=
  ∃ screen, app.handle device event = app.comesTo device event screen ∧
    (screen = none → app.screen = none ∨ app.loads device event = true) ∧
    (∀ details, screen = some (.emergency details) → app.OpensDetails event details) ∧
    ∀ after, app.comesTo device event screen = some after → after.Coherent device

/-- Every gesture offered on the list. -/
theorem comes_of_list {stores : Stores} {list : EmergencyList} {instant : Date}
    (current : list.Current device stores instant)
    (offered : (App.mk stores list none).Offers event.gesture) :
    (App.mk stores list none).Comes device event := by
  obtain ⟨gesture, now, commits⟩ := event
  cases gesture with
  | onAddCall emergencyType =>
      refine ⟨none, onAddCall_eq stores list emergencyType now commits, fun _ => .inl rfl,
        by simp, fun after reached => ?_⟩
      cases loads : (App.mk stores list none).loads device
          ⟨.onAddCall emergencyType, now, commits⟩ with
      | true => exact coherent_of_loads loads reached
      | false =>
          rw [Coherent, (comesTo_eq_some_iff.mp reached).2.2.2]
          exact ⟨instant, current_of_not_loads current offered loads reached⟩
  | onResponded index =>
      have selected := List.getElem?_eq_getElem offered.2
      have stored := EmergencyList.stored_of_listed current.listed selected
      exact ⟨none, onResponded_eq selected stored now commits, fun _ => .inl rfl, by simp,
        fun after reached => coherent_of_loads rfl reached⟩
  | showResponseDetails index =>
      have selected := List.getElem?_eq_getElem offered.2
      have stored := EmergencyList.stored_of_listed current.listed selected
      refine ⟨_, showResponseDetails_eq selected stored now commits, fun _ => .inl rfl, by simp,
        fun after reached => ?_⟩
      obtain rfl := idle_eq rfl rfl reached
      exact ⟨rfl, stored, ⟨"", "", now⟩, rfl, fun _ => rfl, fun _ => rfl, rfl⟩
  | didSelectEmergency index =>
      have selected := List.getElem?_eq_getElem offered.2
      have stored := EmergencyList.stored_of_listed current.listed selected
      obtain ⟨row, found⟩ := Option.isSome_iff_exists.mp stored
      refine ⟨_, didSelectEmergency_eq selected found now commits, fun _ => .inl rfl, ?_,
        fun after reached => ?_⟩
      · rintro details ⟨⟩
        exact .inl ⟨rfl, rfl, row, found, rfl, rfl⟩
      · obtain rfl := idle_eq rfl rfl reached
        exact ⟨current.listed, offered.2, ⟨row, found, by simp⟩, by simp⟩
  | onShowPoints =>
      refine ⟨some (.points list.points), (comesTo_of_idle rfl rfl rfl _).symm,
        fun _ => .inl rfl, by simp, fun after reached => ?_⟩
      obtain rfl := idle_eq rfl rfl reached
      exact trivial
  | _ => exact absurd offered id

/-- Every gesture offered on the details of an emergency. -/
theorem comes_of_details {stores : Stores} {list : EmergencyList} {emergencyCall : RowKey}
    {row : Nat} {title : String} {showEmptyData : Bool}
    (coherent : EmergencyDetails.Coherent device stores list
      ⟨emergencyCall, row, title, showEmptyData, none⟩)
    (offered : (App.mk stores list (some (.emergency
      ⟨emergencyCall, row, title, showEmptyData, none⟩))).Offers event.gesture) :
    (App.mk stores list (some (.emergency
      ⟨emergencyCall, row, title, showEmptyData, none⟩))).Comes device event := by
  obtain ⟨gesture, now, commits⟩ := event
  cases gesture with
  | onEdit newName =>
      refine ⟨_, onEdit_eq stores list emergencyCall row title showEmptyData newName now commits,
        by simp, ?_, fun after reached => ?_⟩
      · rintro details ⟨⟩
        exact .inr ⟨_, rfl, by simp, rfl, rfl, rfl⟩
      by_cases empty : newName = ""
      · obtain rfl := idle_eq (by simp [request, empty]) rfl reached
        exact ⟨coherent.listed, coherent.inRange, coherent.shown, coherent.copied⟩
      · have asks : (App.mk stores list (some (.emergency
            ⟨emergencyCall, row, title, showEmptyData, none⟩))).request
              ⟨.onEdit newName, now, commits⟩ =
            some (.mutate (.updateEmergency emergencyCall newName)) := if_neg empty
        exact details_coherent coherent asks trivial rfl reached
  | onDeleteEmergency =>
      exact ⟨none, onDeleteEmergency_eq stores list emergencyCall row title showEmptyData now
        commits, fun _ => .inr rfl, by simp, fun after reached => coherent_of_loads rfl reached⟩
  | didSelectResponse index =>
      obtain ⟨-, selected, found, within⟩ := offered
      obtain ⟨opened, linked, handled⟩ :=
        didSelectResponse_eq found within row title showEmptyData now commits
      refine ⟨_, handled, by simp, ?_, fun after reached => ?_⟩
      · rintro details ⟨⟩
        exact .inr ⟨_, rfl, by simp, rfl, rfl, rfl⟩
      obtain rfl := idle_eq rfl rfl reached
      refine ⟨coherent.listed, coherent.inRange, ⟨selected, found, ?_⟩, ?_⟩
      · rintro response ⟨⟩
        exact ⟨opened.key, linked, rfl⟩
      · rintro response ⟨⟩
        exact ⟨opened.value, rfl, fun _ => rfl, fun _ => rfl, rfl⟩
  | back =>
      exact ⟨none, (comesTo_of_loads rfl rfl rfl none).symm, fun _ => .inr rfl, by simp,
        fun after reached => coherent_of_loads rfl reached⟩
  | _ => exact absurd offered id

/-- Every gesture offered on a response opened from the details. -/
theorem comes_of_response {stores : Stores} {list : EmergencyList} {emergencyCall : RowKey}
    {row : Nat} {title : String} {showEmptyData : Bool} {response : ResponseDetails}
    (coherent : EmergencyDetails.Coherent device stores list
      ⟨emergencyCall, row, title, showEmptyData, some response⟩)
    (offered : (App.mk stores list (some (.emergency
      ⟨emergencyCall, row, title, showEmptyData, some response⟩))).Offers event.gesture) :
    (App.mk stores list (some (.emergency
      ⟨emergencyCall, row, title, showEmptyData, some response⟩))).Comes device event := by
  obtain ⟨listed, inRange, ⟨selected, found, editing⟩, copied⟩ := id coherent
  obtain ⟨key, linked, edits⟩ := editing response rfl
  obtain ⟨value, agrees⟩ := copied response rfl
  obtain ⟨gesture, now, commits⟩ := event
  cases gesture with
  | details event =>
      obtain ⟨next, changed, agreesNext, -, sameResponse, -, handled⟩ := edit_eq agrees event
        (fun response => .emergency ⟨emergencyCall, row, title, showEmptyData, some response⟩)
        (.emergency ⟨emergencyCall, row, title, showEmptyData, some response⟩)
      refine ⟨some (.emergency ⟨emergencyCall, row, title, showEmptyData, some next⟩), ?_, by simp,
        ?_, fun after reached => ?_⟩
      · rw [comesTo_of_idle rfl rfl rfl]
        exact handled
      · rintro details ⟨⟩
        exact .inr ⟨_, rfl, by simp, rfl, rfl, rfl⟩
      obtain rfl := idle_eq rfl rfl reached
      refine ⟨listed, inRange, ⟨selected, found, ?_⟩, ?_⟩
      · rintro other ⟨⟩
        exact ⟨key, linked, sameResponse.trans edits⟩
      · rintro other ⟨⟩
        exact ⟨changed, agreesNext⟩
  | onSave =>
      refine ⟨_, saveChanged_eq agrees stores list emergencyCall row title showEmptyData now
        commits, by simp, ?_, fun after reached => ?_⟩
      · rintro details ⟨⟩
        exact .inr ⟨_, rfl, by simp, rfl, rfl, rfl⟩
      have asks : (App.mk stores list (some (.emergency
          ⟨emergencyCall, row, title, showEmptyData, some response⟩))).request
            ⟨.onSave, now, commits⟩ = some (.mutate (.updateResponse key
              ⟨response.incidentNumber, response.incidentDetails, value.date⟩)) := by
        simp [request, EditSession.request_eq agrees, edits]
      exact details_coherent coherent asks trivial rfl reached
  | onDeleteResponse =>
      have addressed := List.getElem?_eq_getElem inRange
      refine ⟨_, onDeleteResponse_eq edits addressed stores emergencyCall title showEmptyData now
        commits, by simp, ?_, fun after reached => ?_⟩
      · rintro details ⟨⟩
        exact .inr ⟨_, rfl, by simp, rfl, rfl, rfl⟩
      have asks : (App.mk stores list (some (.emergency
          ⟨emergencyCall, row, title, showEmptyData, some response⟩))).request
            ⟨.onDeleteResponse, now, commits⟩ =
          some (.mutate (.removeResponse key list.emergencyTypes[row])) := by
        simp [request, edits, addressed]
      obtain ⟨calls, performed⟩ := performed_of_asks asks reached
      have current := current_of_loads rfl reached
      rw [Coherent, (comesTo_eq_some_iff.mp reached).2.2.2]
      have keeps : (Mutation.removeResponse key list.emergencyTypes[row]).KeepsEmergencies :=
        trivial
      exact coherent.closed (Mutation.perform_emergencies keeps performed) current.listed
  | back =>
      refine ⟨_, leaveChanged_eq agrees stores list emergencyCall row title showEmptyData now
        commits, by simp, ?_, fun after reached => ?_⟩
      · rintro details ⟨⟩
        exact .inr ⟨_, rfl, by simp, rfl, rfl, rfl⟩
      obtain rfl := idle_eq rfl rfl reached
      exact coherent.closed rfl listed
  | _ => exact absurd offered id

/-- Every gesture offered on a new response. -/
theorem comes_of_newResponse {stores : Stores} {list : EmergencyList} {response : ResponseDetails}
    (coherent : response.New device stores)
    (offered : (App.mk stores list (some (.newResponse response))).Offers event.gesture) :
    (App.mk stores list (some (.newResponse response))).Comes device event := by
  obtain ⟨adds, stored, value, agrees⟩ := coherent
  obtain ⟨gesture, now, commits⟩ := event
  cases gesture with
  | details event =>
      obtain ⟨next, changed, agreesNext, -, sameResponse, sameEmergency, handled⟩ :=
        edit_eq agrees event .newResponse (.newResponse response)
      refine ⟨some (.newResponse next), ?_, by simp, by simp, fun after reached => ?_⟩
      · rw [comesTo_of_idle rfl rfl rfl]
        exact handled
      obtain rfl := idle_eq rfl rfl reached
      exact ⟨sameResponse.trans adds, by rwa [sameEmergency], changed, agreesNext⟩
  | onSave =>
      exact ⟨none, saveNew_eq agrees stores list now commits, fun _ => .inr rfl, by simp,
        fun after reached => coherent_of_loads rfl reached⟩
  | back =>
      exact ⟨none, leaveNew_eq agrees stores list now commits, fun _ => .inr rfl, by simp,
        fun after reached => coherent_of_loads rfl reached⟩
  | _ => exact absurd offered id

/-- Every gesture offered on the points screen. -/
theorem comes_of_points {stores : Stores} {list : EmergencyList} {points : Points}
    (offered : (App.mk stores list (some (.points points))).Offers event.gesture) :
    (App.mk stores list (some (.points points))).Comes device event := by
  -- Whatever points the screen has, it is coherent.
  have coherent : ∀ {shown : Points} {after : App},
      (App.mk stores list (some (.points points))).comesTo device event (some (.points shown)) =
        some after → after.Coherent device := by
    intro shown after reached
    rw [Coherent, (comesTo_eq_some_iff.mp reached).2.2.2]
    trivial
  obtain ⟨gesture, now, commits⟩ := event
  cases gesture with
  | onAddPoints text =>
      exact ⟨_, onAddPoints_eq stores list points text now commits, by simp, by simp,
        fun _ => coherent⟩
  | onResetPoints =>
      exact ⟨some (.points points.clearPoints), rfl, by simp, by simp, fun _ => coherent⟩
  | onClearData =>
      exact ⟨_, onClearData_eq stores list points now commits, by simp, by simp, fun _ => coherent⟩
  | onExportData =>
      exact ⟨_, onExportData_eq stores list points now commits, by simp, by simp, fun _ => coherent⟩
  | back =>
      exact ⟨none, (comesTo_of_loads rfl rfl rfl none).symm, fun _ => .inr rfl, by simp,
        fun after reached => coherent_of_loads rfl reached⟩
  | _ => exact absurd offered id

/-- Every gesture that is offered on coherent screens. -/
theorem comes (coherent : app.Coherent device) (offered : app.Offers event.gesture) :
    app.Comes device event := by
  obtain ⟨stores, list, screen⟩ := app
  match screen with
  | none =>
      obtain ⟨instant, current⟩ := coherent
      exact comes_of_list current offered
  | some (.emergency ⟨_, _, _, _, none⟩) => exact comes_of_details coherent offered
  | some (.emergency ⟨_, _, _, _, some _⟩) => exact comes_of_response coherent offered
  | some (.newResponse _) => exact comes_of_newResponse coherent offered
  | some (.points _) => exact comes_of_points offered

end App
end ResponseTracker
