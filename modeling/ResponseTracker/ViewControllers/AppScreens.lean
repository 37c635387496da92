import ResponseTracker.ViewControllers.AppRuns
import ResponseTracker.ViewControllers.PointsViewController

/-!
# The screens on their own

`PointsScreen` and `EmergencyScreens` model two screens without the program
around them. On these screens the program handles a gesture as they do
(`App.handle_points_eq`, `App.handle_responses_eq`), so what is done on them in a
run of the program is a run of theirs (`points_runs`, `responses_runs`).
-/

namespace ResponseTracker

open AlertFactory DataManager Execution

/-- The action of the points screen that a gesture is. -/
def Gesture.pointsAction? : Gesture → Option PointsAction
  | .onAddPoints text => some (.addPoints (showAddPointsAlert text))
  | .onResetPoints => some .resetPoints
  | .onClearData => some .clearData
  | _ => none

/-- The event of the details and the response screen above them that a gesture is. -/
def EmergencyDetails.screenEvent? (details : EmergencyDetails) (event : UserEvent) :
    Option ScreenEvent :=
  match details.response, event.gesture with
  | none, .didSelectResponse index => some (.didSelectRow index event.now)
  | some _, .details inputs => some (.details inputs)
  | some _, .onSave => some (.onSave event.commits)
  | some _, .back => some .back
  | some _, .onDeleteResponse => some (.onDelete event.now event.commits)
  | _, _ => none

/-- The screen's clock is the one an action has read. -/
theorem PointsScreen.handle_clock {confirmed : Confirmed} {screen after : PointsScreen}
    (handled : screen.handle confirmed = some after) : after.clock = confirmed.now := by
  obtain ⟨action, now, commits⟩ := confirmed
  cases action with
  | addPoints points =>
      obtain ⟨-, rfl⟩ := onAddPoints_eq_some_iff.mp handled
      rfl
  | resetPoints =>
      obtain rfl := Option.some.inj handled
      rfl
  | clearData =>
      obtain rfl := onClearData_eq_some handled
      rfl

namespace App

variable {device : Device}

/-- On the points screen the program does what the screen does on its own, and
loads the list when all data was cleared. -/
theorem handle_points_eq {gesture : Gesture} {action : PointsAction}
    (acts : gesture.pointsAction? = some action) (stores : Stores) (list : EmergencyList)
    (points : Points) (now clock : Date) (commits : Bool) :
    let app : App := ⟨stores, list, some (.points points)⟩
    app.handle device ⟨gesture, now, commits⟩ =
      (PointsScreen.handle ⟨action, now, commits⟩ ⟨stores, points, clock⟩).bind fun shown =>
        (app.listAfter device ⟨gesture, now, commits⟩ shown.stores).map fun list =>
          ⟨shown.stores, list, some (.points shown.points)⟩ := by
  intro app
  cases gesture with
  | onAddPoints text =>
      obtain rfl := Option.some.inj acts
      cases increased : points.increaseCurrent? (showAddPointsAlert text) <;>
        simp [handle, app, onAddPoints, PointsScreen.handle, PointsScreen.onAddPoints, listAfter,
          loads, increased]
  | onResetPoints =>
      obtain rfl := Option.some.inj acts
      rfl
  | onClearData =>
      obtain rfl := Option.some.inj acts
      have cleared : app.handle device ⟨.onClearData, now, commits⟩ =
          app.comesTo device ⟨.onClearData, now, commits⟩ (some (.points points.clearPoints)) :=
        onClearData_eq stores list points now commits
      rw [cleared, comesTo, PointsScreen.handle, PointsScreen.onClearData]
      cases performed : clearAllData now commits stores with
      | none => simp [storesAfter, request, app, Action.perform, Mutation.perform, performed]
      | some left =>
          simp [storesAfter, request, app, Action.perform, Mutation.perform, performed, completes,
            Option.map_eq_bind]
  | _ => exact absurd acts (by simp [Gesture.pointsAction?])

/-- A deletion always reports a success, upon which both load the list. -/
theorem onDeleteResponse_eq_bind (stores : Stores) (list : EmergencyList) (emergencyCall : RowKey)
    (row : Nat) (title : String) (showEmptyData : Bool) (response : ResponseDetails) (now : Date)
    (commits : Bool) :
    let details : EmergencyDetails := ⟨emergencyCall, row, title, showEmptyData, some response⟩
    let app : App := ⟨stores, list, some (.emergency details)⟩
    app.onDeleteResponse device now commits details response =
      (EmergencyScreens.onDelete device now commits row
        ⟨stores, list.emergencyTypes, some response⟩).bind fun shown =>
          (app.listAfter device ⟨.onDeleteResponse, now, commits⟩ shown.stores).map fun list =>
            ⟨shown.stores, { list with emergencyTypes := shown.emergencyTypes },
              some (.emergency { details with response := shown.response })⟩ := by
  intro details app
  rw [onDeleteResponse, EmergencyScreens.onDelete]
  cases edits : response.response with
  | none => simp [edits]
  | some removed =>
      cases addressed : list.emergencyTypes[row]? with
      | none => simp [app, details]
      | some emergency =>
          cases performed : removeResponse removed emergency commits stores with
          | none => simp [edits, app, details, EmergencyScreens.handleRemoved, performed]
          | some performed' =>
              obtain ⟨left, calls⟩ := performed'
              have reported : (calls.any fun call => call.error.isNone) = true := by
                rw [(removeResponse_eq_some performed).2]
                exact Mutation.calls_any false commits (.removeResponse removed emergency)
              simp only [edits, app, details, EmergencyScreens.handleRemoved, performed,
                Option.bind_eq_bind, Option.bind_some, reloadAfter, reported, if_true, reloadData,
                listAfter, loads]
              cases loaded : EmergencyList.loadData device now left with
              | none => rfl
              | some loaded' =>
                  have current := (EmergencyList.loadData_eq_some_iff.mp loaded).2
                  simp [← current.emergencyTypes]

/-- On the details of an emergency the program does to the responses what the
screens do on their own, and loads the whole list when one was deleted. -/
theorem handle_responses_eq {event : UserEvent} {details : EmergencyDetails} {same : ScreenEvent}
    (acts : details.screenEvent? event = some same) (stores : Stores) (list : EmergencyList) :
    let app : App := ⟨stores, list, some (.emergency details)⟩
    app.handle device event =
      (EmergencyScreens.handle device details.emergencyCall details.row
        ⟨stores, list.emergencyTypes, details.response⟩ same).bind fun shown =>
          (app.listAfter device event shown.stores).map fun list =>
            ⟨shown.stores, { list with emergencyTypes := shown.emergencyTypes },
              some (.emergency { details with response := shown.response })⟩ := by
  intro app
  obtain ⟨gesture, now, commits⟩ := event
  obtain ⟨emergencyCall, row, title, showEmptyData, above⟩ := details
  rcases above with - | response
  · cases gesture with
    | didSelectResponse index =>
        obtain rfl := Option.some.inj acts
        simp [handle, app, didSelectResponse, EmergencyScreens.handle,
          EmergencyScreens.didSelectRow, listAfter, loads, Option.bind_assoc]
    | _ => exact absurd acts (by simp [EmergencyDetails.screenEvent?])
  · cases gesture with
    | details inputs =>
        obtain rfl := Option.some.inj acts
        simp [handle, app, edit, EmergencyScreens.handle, EmergencyScreens.details, listAfter,
          loads, Option.bind_assoc]
    | onSave =>
        obtain rfl := Option.some.inj acts
        simp [handle, app, saveChanged, EmergencyScreens.handle, EmergencyScreens.onSave,
          listAfter, loads, Option.bind_assoc]
    | onDeleteResponse =>
        obtain rfl := Option.some.inj acts
        exact onDeleteResponse_eq_bind stores list emergencyCall row title showEmptyData response
          now commits
    | back =>
        obtain rfl := Option.some.inj acts
        simp [handle, app, leaveChanged, EmergencyScreens.handle, EmergencyScreens.back,
          listAfter, loads, Option.bind_assoc]
    | _ => exact absurd acts (by simp [EmergencyDetails.screenEvent?])

end App

variable {device : Device}

/-- The gesture is an action of the points screen that is shown. -/
def Process.OnPoints (performed : Performed Process ProcessEvent) : Prop :=
  ∃ app points event action, performed.before = .running app ∧
    app.screen = some (.points points) ∧ performed.action = .gesture event ∧
      event.gesture.pointsAction? = some action

/-- The readings of the clock in a history. -/
def Process.readings (history : List (Performed Process ProcessEvent)) : List Date :=
  history.filterMap fun performed => performed.action.clock

/-- What a run does on the points screen, at readings of the clock within a month
that do not go back, is a run of the screen on its own over the same stores. -/
theorem points_runs {before : App} {points : Points} {opened : Date} {process : Process}
    {session : List (Performed Process ProcessEvent)}
    (shown : before.screen = some (.points points))
    (runs : Runs (Process.Step device) (.running before) session process)
    (only : ∀ performed ∈ session, Process.OnPoints performed)
    (forward : (opened :: Process.readings session).Pairwise (· ≤ ·))
    (sameMonth : ∀ instant ∈ Process.readings session,
      device.timeZone.monthIndex opened = device.timeZone.monthIndex instant) :
    ∃ app left clock history, process = .running app ∧ app.screen = some (.points left) ∧
      clock ∈ opened :: Process.readings session ∧
      Runs (PointsScreen.Step device) (some ⟨before.stores, points, opened⟩) history
        (some ⟨app.stores, left, clock⟩) := by
  induction runs with
  | initial => exact ⟨before, points, opened, [], rfl, shown, List.mem_cons_self, .initial⟩
  | @step earlier state action after prior transition ih =>
      obtain ⟨app, _, ⟨gesture, now, commits⟩, action, rfl, here, rfl, acts⟩ :=
        only _ (List.mem_append_right _ (List.mem_singleton_self _))
      have readings : Process.readings (earlier ++
          [⟨.running app, .gesture ⟨gesture, now, commits⟩, after⟩]) =
            Process.readings earlier ++ [now] := List.filterMap_append
      rw [readings] at forward sameMonth ⊢
      rw [← List.cons_append, List.pairwise_append] at forward
      obtain ⟨ordered, -, later⟩ := forward
      obtain ⟨_, left, clock, history, ⟨⟩, isOpen, read, screens⟩ :=
        ih (fun performed member => only performed (List.mem_append_left _ member)) ordered
          fun instant member => sameMonth instant (List.mem_append_left _ member)
      obtain rfl := Screen.points.inj (Option.some.inj (isOpen.symm.trans here))
      obtain ⟨-, next, handled, rfl⟩ := transition
      obtain ⟨stores, list, screen⟩ := app
      obtain rfl : screen = some (.points left) := isOpen
      rw [App.handle_points_eq acts stores list left now clock commits,
        Option.bind_eq_some_iff] at handled
      obtain ⟨reached, acted, loaded⟩ := handled
      obtain ⟨list, -, rfl⟩ := Option.map_eq_some_iff.mp loaded
      have inMonth : device.timeZone.monthIndex clock = device.timeZone.monthIndex now := by
        rw [← sameMonth now (by simp)]
        rcases List.mem_cons.mp read with rfl | earlierRead
        · rfl
        · exact (sameMonth clock (List.mem_append_left _ earlierRead)).symm
      have step : PointsScreen.Step device (some ⟨stores, left, clock⟩) ⟨action, now, commits⟩
          (some reached) :=
        ⟨_, rfl, later clock read now (List.mem_singleton_self now), inMonth, acted⟩
      obtain ⟨kept, figures, reading⟩ := reached
      obtain rfl : reading = now := PointsScreen.handle_clock acted
      exact ⟨_, _, reading, _, rfl, rfl, by simp, .step screens step⟩

/-- The gesture opens a response of the details that are shown, or is one on the
response screen above them. -/
def Process.OnResponses (performed : Performed Process ProcessEvent) : Prop :=
  ∃ app details event same, performed.before = .running app ∧
    app.screen = some (.emergency details) ∧ performed.action = .gesture event ∧
      details.screenEvent? event = some same

/-- What a run does to the responses of the details that are shown is a run of the
screens on their own, over the same stores and the same array. -/
theorem responses_runs {before : App} {details : EmergencyDetails} {process : Process}
    {session : List (Performed Process ProcessEvent)}
    (shown : before.screen = some (.emergency details))
    (runs : Runs (Process.Step device) (.running before) session process)
    (only : ∀ performed ∈ session, Process.OnResponses performed) :
    ∃ app left history, process = .running app ∧ app.screen = some (.emergency left) ∧
      left.emergencyCall = details.emergencyCall ∧ left.row = details.row ∧
      Runs (EmergencyScreens.Step device details.emergencyCall details.row)
        ⟨before.stores, before.list.emergencyTypes, details.response⟩ history
        ⟨app.stores, app.list.emergencyTypes, left.response⟩ := by
  induction runs with
  | initial => exact ⟨before, details, [], rfl, shown, rfl, rfl, .initial⟩
  | @step earlier state action after prior transition ih =>
      obtain ⟨app, left, history, rfl, isOpen, call, row, screens⟩ :=
        ih fun performed member => only performed (List.mem_append_left _ member)
      obtain ⟨_, _, event, same, ⟨⟩, here, rfl, acts⟩ :=
        only _ (List.mem_append_right _ (List.mem_singleton_self _))
      obtain rfl := Screen.emergency.inj (Option.some.inj (isOpen.symm.trans here))
      obtain ⟨-, next, handled, rfl⟩ := transition
      obtain ⟨stores, list, screen⟩ := app
      obtain rfl : screen = some (.emergency left) := isOpen
      rw [App.handle_responses_eq acts, Option.bind_eq_some_iff] at handled
      obtain ⟨reached, step, loaded⟩ := handled
      obtain ⟨list, -, rfl⟩ := Option.map_eq_some_iff.mp loaded
      rw [call, row] at step
      exact ⟨_, _, _, rfl, rfl, call, row, .step screens step⟩

end ResponseTracker
