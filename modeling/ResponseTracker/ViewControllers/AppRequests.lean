import ResponseTracker.ViewControllers.AppSteps

/-!
# What the screens ask for

Where the screens are coherent, a gesture asks for one of a few operations, on
objects that are stored or that it has built itself (`App.asks_of_request`).
-/

namespace ResponseTracker

open AlertFactory DataManager

/-- The operations that the screens shown ask for, and what they know of the
objects they hand over. -/
inductive App.Asks : App → UserEvent → Action → Prop
  | addEmergency (stores : Stores) (list : EmergencyList) {emergencyType : String} (now : Date)
      (commits : Bool) (given : emergencyType ≠ "") :
      Asks ⟨stores, list, none⟩ ⟨.onAddCall emergencyType, now, commits⟩
        (.mutate (.addEmergency (.unmanaged ⟨emergencyType, []⟩)))
  | respond {stores : Stores} (list : EmergencyList) (index : Nat) {emergency : RowKey}
      (now : Date) (commits : Bool) (stored : (stores.tables.emergency? emergency).isSome) :
      Asks ⟨stores, list, none⟩ ⟨.onResponded index, now, commits⟩
        (.mutate (.addResponse (.unmanaged ⟨"", "", now⟩) emergency))
  | rename {stores : Stores} (list : EmergencyList) {details : EmergencyDetails}
      {newName : String} {row : EmergencyRow} (now : Date) (commits : Bool)
      (found : stores.tables.emergency? details.emergencyCall = some row)
      (given : newName ≠ "") :
      Asks ⟨stores, list, some (.emergency details)⟩ ⟨.onEdit newName, now, commits⟩
        (.mutate (.updateEmergency details.emergencyCall newName))
  | deleteEmergency {stores : Stores} (list : EmergencyList) {details : EmergencyDetails}
      {row : EmergencyRow} (now : Date) (commits : Bool)
      (found : stores.tables.emergency? details.emergencyCall = some row) :
      Asks ⟨stores, list, some (.emergency details)⟩ ⟨.onDeleteEmergency, now, commits⟩
        (.mutate (.removeEmergency details.emergencyCall))
  | save {stores : Stores} (list : EmergencyList) {details : EmergencyDetails} {row : EmergencyRow}
      {response : RowKey} (value : Response) (now : Date) (commits : Bool)
      (found : stores.tables.emergency? details.emergencyCall = some row)
      (linked : response ∈ row.responses) :
      Asks ⟨stores, list, some (.emergency details)⟩ ⟨.onSave, now, commits⟩
        (.mutate (.updateResponse response value))
  | deleteResponse {stores : Stores} (list : EmergencyList) {details : EmergencyDetails}
      {row : EmergencyRow} {response target : RowKey} (now : Date) (commits : Bool)
      (found : stores.tables.emergency? details.emergencyCall = some row)
      (linked : response ∈ row.responses)
      (addressed : (stores.tables.emergency? target).isSome) :
      Asks ⟨stores, list, some (.emergency details)⟩ ⟨.onDeleteResponse, now, commits⟩
        (.mutate (.removeResponse response target))
  | add {stores : Stores} (list : EmergencyList) {response : ResponseDetails} (value : Response)
      (now : Date) (commits : Bool)
      (stored : (stores.tables.emergency? response.emergency).isSome) :
      Asks ⟨stores, list, some (.newResponse response)⟩ ⟨.onSave, now, commits⟩
        (.mutate (.addResponse (.unmanaged value) response.emergency))
  | addPoints (stores : Stores) (list : EmergencyList) (points : Points) (text : String)
      (now : Date) (commits : Bool) :
      Asks ⟨stores, list, some (.points points)⟩ ⟨.onAddPoints text, now, commits⟩
        (.manuallyAdd (showAddPointsAlert text))
  | resetPoints (stores : Stores) (list : EmergencyList) (points : Points) (now : Date)
      (commits : Bool) :
      Asks ⟨stores, list, some (.points points)⟩ ⟨.onResetPoints, now, commits⟩ .clearPoints
  | clearData (stores : Stores) (list : EmergencyList) (points : Points) (now : Date)
      (commits : Bool) :
      Asks ⟨stores, list, some (.points points)⟩ ⟨.onClearData, now, commits⟩
        (.mutate .clearAllData)

namespace App

variable {device : Device} {app : App} {event : UserEvent} {action : Action}

/-- What is asked for on the list. -/
theorem asks_of_list {stores : Stores} {list : EmergencyList} {instant : Date}
    (current : list.Current device stores instant)
    (asks : (App.mk stores list none).request event = some action) :
    (App.mk stores list none).Asks event action := by
  obtain ⟨gesture, now, commits⟩ := event
  cases gesture with
  | onAddCall emergencyType =>
      obtain ⟨given, asked⟩ := Option.ite_none_left_eq_some.mp asks
      obtain rfl := Option.some.inj asked
      exact .addEmergency stores list now commits given
  | onResponded index =>
      obtain ⟨emergency, selected, rfl⟩ := Option.map_eq_some_iff.mp asks
      exact .respond list index now commits
        (EmergencyList.stored_of_listed current.listed selected)
  | _ => exact absurd asks (by simp [request])

/-- What is asked for on the details of an emergency and on a response opened from them. -/
theorem asks_of_details {stores : Stores} {list : EmergencyList} {details : EmergencyDetails}
    (coherent : details.Coherent device stores list)
    (asks : (App.mk stores list (some (.emergency details))).request event = some action) :
    (App.mk stores list (some (.emergency details))).Asks event action := by
  obtain ⟨listed, -, ⟨row, found, editing⟩, copied⟩ := coherent
  obtain ⟨gesture, now, commits⟩ := event
  obtain ⟨emergencyCall, index, title, showEmptyData, _ | response⟩ := details
  · cases gesture with
    | onEdit newName =>
        obtain ⟨given, asked⟩ := Option.ite_none_left_eq_some.mp asks
        obtain rfl := Option.some.inj asked
        exact .rename list now commits found given
    | onDeleteEmergency =>
        obtain rfl := Option.some.inj asks
        exact .deleteEmergency list now commits found
    | _ => exact absurd asks (by simp [request])
  · obtain ⟨key, linked, edits⟩ := editing response rfl
    obtain ⟨value, agrees⟩ := copied response rfl
    cases gesture with
    | onSave =>
        simp only [request, EditSession.request_eq agrees, edits, Option.map_some,
          Option.some.injEq] at asks
        subst asks
        exact .save list _ now commits found linked
    | onDeleteResponse =>
        simp only [request, edits, Option.bind_eq_bind, Option.bind_some, Option.bind_eq_some_iff,
          Option.some.injEq] at asks
        obtain ⟨target, addressed, rfl⟩ := asks
        exact .deleteResponse list now commits found linked
          (EmergencyList.stored_of_listed listed addressed)
    | _ => exact absurd asks (by simp [request])

/-- What is asked for on a new response. -/
theorem asks_of_newResponse {stores : Stores} {list : EmergencyList} {response : ResponseDetails}
    (coherent : response.New device stores)
    (asks : (App.mk stores list (some (.newResponse response))).request event = some action) :
    (App.mk stores list (some (.newResponse response))).Asks event action := by
  obtain ⟨adds, stored, value, agrees⟩ := coherent
  obtain ⟨gesture, now, commits⟩ := event
  cases gesture with
  | onSave =>
      simp only [request, EditSession.request_eq agrees, adds, Option.map_some,
        Option.some.injEq] at asks
      subst asks
      exact .add list _ now commits stored
  | _ => exact absurd asks (by simp [request])

/-- What is asked for on the points screen. -/
theorem asks_of_points {stores : Stores} {list : EmergencyList} {points : Points}
    (asks : (App.mk stores list (some (.points points))).request event = some action) :
    (App.mk stores list (some (.points points))).Asks event action := by
  obtain ⟨gesture, now, commits⟩ := event
  cases gesture with
  | onAddPoints text =>
      obtain rfl := Option.some.inj asks
      exact .addPoints stores list points text now commits
  | onResetPoints =>
      obtain rfl := Option.some.inj asks
      exact .resetPoints stores list points now commits
  | onClearData =>
      obtain rfl := Option.some.inj asks
      exact .clearData stores list points now commits
  | _ => exact absurd asks (by simp [request])

/-- Nothing else is asked for. -/
theorem asks_of_request (coherent : app.Coherent device)
    (asks : app.request event = some action) : app.Asks event action := by
  obtain ⟨stores, list, screen⟩ := app
  rcases screen with _ | details | response | points
  · obtain ⟨instant, current⟩ := coherent
    exact asks_of_list current asks
  · exact asks_of_details coherent asks
  · exact asks_of_newResponse coherent asks
  · exact asks_of_points asks

end App
end ResponseTracker
