import ResponseTracker.DataSource.EmergencyBook
import ResponseTracker.ViewControllers.AppStores

/-!
# Visits of the screens above the list

While the details of an emergency are open, nothing the user does changes
another one, also where a deletion addresses another (`visit_leavesOthers`,
`delete_removes`), and they show the emergency as it is stored
(`details_current`). The screen of a new response stores what it shows in the
emergency it was opened for (`newResponse_saves`).
-/

namespace ResponseTracker

open DataManager Execution

variable {device : Device}

/-- Doing nothing leaves the others. -/
theorem LeavesOthers.refl (emergency : RowKey) (tables : Tables) :
    LeavesOthers emergency tables tables := fun _ member _ => ⟨member, rfl⟩

/-- Two changes in turn leave the others if both do. -/
theorem LeavesOthers.trans {emergency : RowKey} {first next last : Tables}
    (earlier : LeavesOthers emergency first next) (later : LeavesOthers emergency next last) :
    LeavesOthers emergency first last := by
  intro row member different
  obtain ⟨kept, same⟩ := earlier row member different
  obtain ⟨still, sameAgain⟩ := later row kept different
  exact ⟨still, sameAgain.trans same⟩

/-- The mutation is one on the given emergency, or removes a response from its
list, whatever emergency the removal addresses. -/
def Mutation.Within (tables : Tables) (emergency : RowKey) (mutation : Mutation) : Prop :=
  mutation.On tables emergency ∨ ∃ response target row, mutation = .removeResponse response target ∧
    tables.emergency? emergency = some row ∧ response ∈ row.responses

section Within

variable {tables contents : Tables} {mutation : Mutation} {emergency : RowKey}

/-- What is asked for within an emergency leaves the others. -/
theorem Mutation.requested_within (owned : tables.Owned)
    (within : mutation.Within tables emergency)
    (asked : mutation.requested tables = some contents) :
    LeavesOthers emergency tables contents := by
  rcases within with on | ⟨response, target, row, rfl, found, linked⟩
  · exact requested_leavesOthers owned on asked
  · obtain ⟨stored, rfl⟩ := Tables.emergency?_eq_some found
    rw [requested_removeResponse asked]
    refine owned.deleteResponses_leavesOthers stored fun key selected => ?_
    rwa [beq_iff_eq.mp selected]

/-- What is asked for within an emergency is not rejected. -/
theorem Mutation.not_rejected_of_within (device : Device)
    (within : mutation.Within tables emergency) : mutation.rejected device tables = false := by
  rcases within with on | ⟨response, target, row, rfl, -, -⟩
  · exact not_rejected_of_on device on
  · rfl

/-- What is asked for within an emergency leaves the user defaults as they were. -/
theorem Mutation.defaultsAfter_of_within (now : Date) (defaults : UserDefaults)
    (within : mutation.Within tables emergency) :
    mutation.defaultsAfter now defaults = defaults := by
  rcases within with on | ⟨response, target, row, rfl, -, -⟩
  · exact defaultsAfter_of_on now defaults on
  · rfl

end Within

/-- Neither what is persisted nor what is visible of the other emergencies has
changed, nor have the user defaults. -/
structure Stores.LeavesOthers (emergency : RowKey) (before after : Stores) : Prop where
  persisted : ResponseTracker.LeavesOthers emergency before.defaultRealm.persisted
    after.defaultRealm.persisted
  visible : ResponseTracker.LeavesOthers emergency before.tables after.tables
  defaults : after.defaults = before.defaults

namespace App

variable {app : App} {event : UserEvent} {details : EmergencyDetails} {after : Stores}

/-- What is asked for on the details of an emergency is within it. -/
theorem request_within (coherent : app.Coherent device)
    (shown : app.screen = some (.emergency details)) {action : Action}
    (asks : app.request event = some action) :
    ∃ mutation, action = .mutate mutation ∧
      mutation.Within app.stores.tables details.emergencyCall := by
  cases asks_of_request coherent asks with
  | rename =>
      obtain rfl := Screen.emergency.inj (Option.some.inj shown)
      exact ⟨_, rfl, .inl rfl⟩
  | deleteEmergency =>
      obtain rfl := Screen.emergency.inj (Option.some.inj shown)
      exact ⟨_, rfl, .inl rfl⟩
  | save list value now commits found linked =>
      obtain rfl := Screen.emergency.inj (Option.some.inj shown)
      exact ⟨_, rfl, .inl ⟨_, found, linked⟩⟩
  | deleteResponse list now commits found linked addressed =>
      obtain rfl := Screen.emergency.inj (Option.some.inj shown)
      exact ⟨_, rfl, .inr ⟨_, _, _, rfl, found, linked⟩⟩
  | _ => exact absurd shown (by simp)

/-- A gesture on open details leaves what other emergencies present. -/
theorem storesAfter_leavesOthers (coherent : app.Coherent device) (owned : app.stores.tables.Owned)
    (shown : app.screen = some (.emergency details))
    (performed : app.storesAfter device event = some after) :
    app.stores.LeavesOthers details.emergencyCall after := by
  rw [storesAfter] at performed
  cases asks : app.request event with
  | none =>
      rw [asks] at performed
      obtain rfl := Option.some.inj performed
      exact ⟨.refl _ _, .refl _ _, rfl⟩
  | some action =>
      obtain ⟨mutation, rfl, within⟩ := request_within coherent shown asks
      rw [asks, Option.map_eq_some_iff] at performed
      obtain ⟨⟨left, calls⟩, performed, rfl⟩ := performed
      obtain ⟨closed, contents, asked, rfl, -⟩ := perform_cases device _ _ performed
      have others := Mutation.requested_within owned within asked
      rw [Mutation.staged, Mutation.not_rejected_of_within device within,
        Mutation.defaultsAfter_of_within _ _ within]
      -- No transaction was open, so what is visible was persisted.
      have same : app.stores.tables = app.stores.defaultRealm.persisted := by
        rw [Stores.tables, Transactional.visible, closed, Option.getD_none]
      refine ⟨?_, by rwa [tables_settled], rfl⟩
      rw [← same]
      cases event.commits with
      | true => exact others
      | false => exact .refl _ _

end App

namespace Process

/-- The details of the emergency are open, or a response screen above them. -/
def Visits (emergency : RowKey) : Process → Prop
  | .running app => ∃ details, app.screen = some (.emergency details) ∧
      details.emergencyCall = emergency
  | .ended _ => False

end Process

/-- During a visit of an emergency's details, from wherever the program has got
to since its first launch, no gestures change another emergency, its responses
or the user defaults, in what is visible or in what the next launch finds. -/
theorem visit_leavesOthers {earlier visit : List (Performed Process ProcessEvent)}
    {opened left : Process} {emergency : RowKey}
    (runs : Runs (Process.Step device) (.ended Stores.empty) earlier opened)
    (gestures : Runs (Process.Step device) opened visit left)
    (visits : ∀ performed ∈ visit, performed.before.Visits emergency ∧
      ∃ event, performed.action = .gesture event) :
    opened.stores.LeavesOthers emergency left.stores := by
  induction gestures with
  | initial => exact ⟨.refl _ _, .refl _ _, rfl⟩
  | @step history before action after prior transition ih =>
      obtain ⟨persisted, visible, defaults⟩ :=
        ih fun performed member => visits performed (List.mem_append_left _ member)
      obtain ⟨visiting, event, rfl⟩ :=
        visits _ (List.mem_append_right _ (List.mem_singleton_self _))
      have reached := runs.append prior
      cases before with
      | ended stores => exact absurd visiting id
      | running app =>
          obtain ⟨details, shown, rfl⟩ := visiting
          obtain ⟨offered, next, handled, rfl⟩ := transition
          have coherent : app.Coherent device := runs_coherent reached
          have performed := (App.handled coherent offered handled).1
          have here := App.storesAfter_leavesOthers coherent (process_owned reached).visible shown
            performed
          exact ⟨persisted.trans here.persisted, visible.trans here.visible,
            here.defaults.trans defaults⟩

/-- One of two emergencies is opened and renamed. -/
theorem visit_leavesOthers_flood :
    let two := (Tables.empty.insertEmergency "Fire").insertEmergency "Flood"
    let renamed := two.updateEmergency 0 (fun _ => "Blaze") id fun _ _ linked => .inl linked
    Stores.LeavesOthers 0 ⟨⟨two, none⟩, {}⟩ ⟨⟨renamed, none⟩, {}⟩ := by
  intro two renamed
  let listed : App := ⟨⟨⟨two, none⟩, {}⟩, ⟨[0, 1], {}, false⟩, none⟩
  let details : EmergencyDetails := ⟨0, 0, "Fire", true, none⟩
  let opened : App := { listed with screen := some (.emergency details) }
  let left : App := ⟨⟨⟨renamed, none⟩, {}⟩, listed.list,
    some (.emergency { details with title := "Blaze" })⟩
  obtain ⟨history, runs⟩ := runs_flood
  have selected : Process.Step (Device.gmt "") (.running listed)
      (.gesture ⟨.didSelectEmergency 0, 5, true⟩) (.running opened) :=
    ⟨⟨rfl, by decide⟩, opened, rfl, rfl⟩
  have edited : Process.Step (Device.gmt "") (.running opened)
      (.gesture ⟨.onEdit "Blaze", 5, true⟩) (.running left) := ⟨trivial, left, rfl, rfl⟩
  refine visit_leavesOthers (.step runs selected) (.step .initial edited) ?_
  intro performed member
  obtain rfl := List.mem_singleton.mp member
  exact ⟨⟨details, rfl, rfl⟩, _, rfl⟩

/-! ## What the details show -/

/-- The details have the type of their emergency as the title, and show no
placeholder in place of responses. -/
def App.Presents (app : App) : Prop :=
  ∀ details, app.screen = some (.emergency details) →
    ∃ row, app.stores.tables.emergency? details.emergencyCall = some row ∧
      details.title = row.type ∧ (details.showEmptyData = true → row.responses = [])

namespace App

variable {app after : App} {event : UserEvent} {details : EmergencyDetails}

/-- A gesture on the details that asks for nothing leaves their title. -/
theorem titleAfter_of_idle (offered : app.Offers event.gesture)
    (shown : app.screen = some (.emergency details)) (idle : app.request event = none)
    (title : String) : titleAfter title event.gesture = title := by
  obtain ⟨gesture, now, commits⟩ := event
  obtain ⟨stores, list, screen⟩ := app
  obtain rfl : screen = some (.emergency details) := shown
  cases gesture with
  | onEdit newName =>
      obtain ⟨emergencyCall, row, shownTitle, showEmptyData, _ | response⟩ := details
      · by_cases empty : newName = ""
        · exact if_pos empty
        · exact absurd idle (by simp [request, empty])
      · exact absurd offered id
  | _ => rfl

/-- A gesture on the details changes the type of their emergency with the title,
and adds no responses to it. -/
theorem storesAfter_emergency? {row : EmergencyRow} {stores : Stores}
    (coherent : app.Coherent device) (offered : app.Offers event.gesture)
    (shown : app.screen = some (.emergency details))
    (kept : event.gesture ≠ .onDeleteEmergency)
    (found : app.stores.tables.emergency? details.emergencyCall = some row)
    (performed : app.storesAfter device event = some stores) :
    ∃ left, stores.tables.emergency? details.emergencyCall = some left ∧
      left.type = titleAfter row.type event.gesture ∧
      (row.responses = [] → left.responses = []) := by
  rw [storesAfter] at performed
  cases asks : app.request event with
  | none =>
      rw [asks] at performed
      obtain rfl := Option.some.inj performed
      exact ⟨row, found, (titleAfter_of_idle offered shown asks row.type).symm, id⟩
  | some action =>
      obtain ⟨mutation, rfl, within⟩ := request_within coherent shown asks
      rw [asks, Option.map_eq_some_iff] at performed
      obtain ⟨⟨left, calls⟩, performed, rfl⟩ := performed
      obtain ⟨-, contents, asked, rfl, -⟩ := perform_cases device _ _ performed
      rw [tables_settled, Mutation.staged, Mutation.not_rejected_of_within device within]
      cases asks_of_request coherent asks with
      | rename list now commits here given =>
          obtain ⟨⟩ := shown
          obtain ⟨_, -, rfl⟩ := Tables.setType_eq_some asked
          have key := (Tables.emergency?_eq_some found).2
          refine ⟨_, (Tables.emergency?_map rfl (Tables.updatedRow_key _ _ _)).trans
            (congrArg (Option.map _) found), ?_, ?_⟩
          · rw [Tables.updatedRow, if_pos (by simp [key]), titleAfter, if_neg given]
          · rw [Tables.updatedRow, if_pos (by simp [key])]
            exact id
      | deleteEmergency => exact absurd rfl kept
      | save list value now commits here linked =>
          obtain ⟨⟩ := shown
          obtain rfl := Tables.setResponse_eq_some asked
          exact ⟨row, found, rfl, id⟩
      | deleteResponse list now commits here linked addressed =>
          obtain ⟨⟩ := shown
          obtain rfl := Mutation.requested_removeResponse asked
          refine ⟨_, (Tables.emergency?_map rfl (Tables.unlinkedRow_key _)).trans
            (congrArg (Option.map _) found), rfl, fun none => ?_⟩
          rw [Tables.unlinkedRow, none, List.filter_nil]
      | _ => exact absurd shown (by simp)

/-- Whatever gesture is handled, open details present their emergency. -/
theorem presents_of_handled (coherent : app.Coherent device) (presents : app.Presents)
    (offered : app.Offers event.gesture) (handled : app.handle device event = some after) :
    after.Presents := by
  intro details shown
  obtain ⟨screen, same, -, opens, -⟩ := comes coherent offered
  rw [same] at handled
  obtain ⟨performed, -, -, here⟩ := comesTo_eq_some_iff.mp handled
  rcases opens details (here.symm.trans shown) with ⟨-, idle, row, found, title, empty⟩ |
    ⟨earlier, before, kept, emergencyCall, empty, title⟩
  · rw [storesAfter, idle] at performed
    rw [← Option.some.inj performed]
    refine ⟨row, found, title, fun shows => ?_⟩
    rw [empty, beq_iff_eq] at shows
    exact List.length_eq_zero_iff.mp shows
  · obtain ⟨row, found, sameTitle, none⟩ := presents earlier before
    obtain ⟨left, leads, type, still⟩ :=
      storesAfter_emergency? coherent offered before kept found performed
    refine ⟨left, by rw [emergencyCall, leads], by rw [title, type, sameTitle], fun shows => ?_⟩
    exact still (none (empty ▸ shows))

end App

/-- Details that are open present their emergency. Once the process has ended none are. -/
def Process.Presents : Process → Prop
  | .running app => app.Presents
  | .ended _ => True

/-- Through a step of the process open details present their emergency. -/
theorem Process.Step.presents {before after : Process} {event : ProcessEvent}
    (coherent : before.Coherent device) (presents : before.Presents)
    (step : Process.Step device before event after) : after.Presents := by
  cases before with
  | running app =>
      cases event with
      | gesture event =>
          obtain ⟨offered, next, handled, rfl⟩ := step
          exact App.presents_of_handled coherent presents offered handled
      | terminated =>
          obtain rfl := step
          exact trivial
      | interrupted event writes =>
          obtain ⟨-, action, -, rfl⟩ := step
          exact trivial
      | completed event =>
          obtain ⟨-, stores, -, rfl⟩ := step
          exact trivial
      | launched now => exact absurd step id
  | ended stores =>
      cases event with
      | launched now =>
          obtain ⟨app, launched, rfl⟩ := step
          obtain ⟨-, shown, -⟩ := App.launched_eq_some launched
          intro details opened
          exact absurd (shown.symm.trans opened) (by simp)
      | _ => exact absurd step id

/-- Through every run open details present their emergency. -/
theorem runs_presents {stores : Stores} {history : List (Performed Process ProcessEvent)}
    {process : Process} (runs : Runs (Process.Step device) (.ended stores) history process) :
    process.Presents := by
  induction runs with
  | initial => exact trivial
  | step prior transition ih => exact transition.presents (runs_coherent prior) ih

/-- Whenever the details of an emergency are open, in whatever run, the emergency
is stored, the title is its type as it is by now, the rows that can be selected
are exactly its responses, with no placeholder in their place, and a response
screen above is that of one of them. -/
theorem details_current {stores : Stores} {history : List (Performed Process ProcessEvent)}
    {app : App} {details : EmergencyDetails}
    (runs : Runs (Process.Step device) (.ended stores) history (.running app))
    (shown : app.screen = some (.emergency details)) :
    ∃ row, app.stores.tables.emergency? details.emergencyCall = some row ∧
      details.title = row.type ∧ (details.showEmptyData = true → row.responses = []) ∧
      (details.response = none → ∀ index,
        app.Offers (.didSelectResponse index) ↔ index < row.responses.length) ∧
      ∀ response ∈ details.response, ∃ key ∈ row.responses, response.response = some key := by
  have presents : app.Presents := runs_presents runs
  have coherent : app.Coherent device := runs_coherent runs
  obtain ⟨row, found, title, none⟩ := presents details shown
  obtain ⟨stores, list, screen⟩ := app
  obtain rfl : screen = some (.emergency details) := shown
  obtain ⟨-, -, ⟨selected, same, editing⟩, -⟩ := coherent
  obtain rfl : row = selected := Option.some.inj (found.symm.trans same)
  refine ⟨row, found, title, none, fun closed index => ?_, editing⟩
  obtain ⟨emergencyCall, place, title, showEmptyData, response⟩ := details
  obtain rfl : response = .none := closed
  constructor
  · rintro ⟨-, other, sameRow, within⟩
    obtain rfl := Option.some.inj (found.symm.trans sameRow)
    exact within
  · intro within
    refine ⟨Bool.eq_false_iff.mpr fun shows => ?_, row, found, within⟩
    rw [none shows] at within
    exact absurd within (Nat.not_lt_zero index)

/-- The only emergency is opened and renamed. -/
theorem details_current_blaze :
    let fire := Tables.empty.insertEmergency "Fire"
    let renamed := fire.updateEmergency 0 (fun _ => "Blaze") id fun _ _ linked => .inl linked
    ∃ row, renamed.emergency? 0 = some row ∧ "Blaze" = row.type := by
  intro fire renamed
  let listed : App := ⟨⟨⟨fire, none⟩, {}⟩, ⟨[0], {}, false⟩, none⟩
  let details : EmergencyDetails := ⟨0, 0, "Fire", true, none⟩
  let opened : App := { listed with screen := some (.emergency details) }
  let left : App := ⟨⟨⟨renamed, none⟩, {}⟩, listed.list,
    some (.emergency { details with title := "Blaze" })⟩
  obtain ⟨history, runs⟩ := runs_fire
  have selected : Process.Step (Device.gmt "") (.running listed)
      (.gesture ⟨.didSelectEmergency 0, 5, true⟩) (.running opened) :=
    ⟨⟨rfl, by decide⟩, opened, rfl, rfl⟩
  have edited : Process.Step (Device.gmt "") (.running opened)
      (.gesture ⟨.onEdit "Blaze", 5, true⟩) (.running left) := ⟨trivial, left, rfl, rfl⟩
  obtain ⟨row, found, title, -⟩ := details_current (.step (.step runs selected) edited) rfl
  exact ⟨row, found, title⟩

/-! ## Deleting a response -/

/-- A deleted response is not found, and all others are as they were. -/
theorem Tables.deleteResponses_response?_eq (tables : Tables) (key other : RowKey) :
    (tables.deleteResponses (· == key)).response? other =
      if other = key then none else tables.response? other := by
  by_cases here : other = key
  · rw [if_pos here, ← Option.not_isSome_iff_eq_none, Tables.response?_isSome]
    intro kept
    obtain ⟨stored, member, rfl⟩ := List.mem_map.mp kept
    have alive := (RowTable.mem_moveLastOver.mp member).2
    exact absurd here (by simpa using alive)
  · rw [if_neg here]
    exact Tables.deleteResponses_response? (by simpa using here)

/-- A confirmed deletion on the response screen removes the response shown from
the emergency shown, keeps its other responses in their order and leaves every
other response alone, wherever in the list the emergency is by now, and returns
to the details over a list that was loaded again. -/
theorem delete_removes {history : List (Performed Process ProcessEvent)} {before after : App}
    {details : EmergencyDetails} {response : ResponseDetails} {now : Date} {commits : Bool}
    (runs : Runs (Process.Step device) (.ended Stores.empty) history (.running before))
    (shown : before.screen = some (.emergency details))
    (opened : details.response = some response)
    (deletes : Process.Step device (.running before) (.gesture ⟨.onDeleteResponse, now, commits⟩)
      (.running after)) :
    ∃ key row, response.response = some key ∧
      before.stores.tables.emergency? details.emergencyCall = some row ∧ key ∈ row.responses ∧
      KeepsOrder details.emergencyCall key before.stores.tables after.stores.tables ∧
      (∀ other, after.stores.tables.response? other =
        if other = key then none else before.stores.tables.response? other) ∧
      after.screen = some (.emergency { details with response := none }) ∧
      after.list.Current device after.stores now := by
  have coherent : before.Coherent device := runs_coherent runs
  have owned := (process_owned runs).visible
  obtain ⟨stores, list, screen⟩ := before
  obtain rfl : screen = some (.emergency details) := shown
  obtain ⟨emergencyCall, row, title, showEmptyData, above⟩ := details
  obtain rfl : above = some response := opened
  obtain ⟨offered, next, handled, same⟩ := deletes
  obtain rfl := Process.running.inj same
  obtain ⟨listed, inRange, ⟨selected, found, editing⟩, copied⟩ := coherent
  obtain ⟨key, linked, edits⟩ := editing response rfl
  have addressed := List.getElem?_eq_getElem inRange
  have reached : (App.mk stores list (some (.emergency
      ⟨emergencyCall, row, title, showEmptyData, some response⟩))).comesTo device
        ⟨.onDeleteResponse, now, commits⟩
        (some (.emergency ⟨emergencyCall, row, title, showEmptyData, none⟩)) = some after :=
    (App.onDeleteResponse_eq edits addressed stores emergencyCall title showEmptyData now
      commits).symm.trans handled
  have asks : (App.mk stores list (some (.emergency
      ⟨emergencyCall, row, title, showEmptyData, some response⟩))).request
        ⟨.onDeleteResponse, now, commits⟩ =
      some (.mutate (.removeResponse key list.emergencyTypes[row])) := by
    simp [App.request, edits, addressed]
  have tables := App.removed_of_asks asks reached
  refine ⟨key, selected, edits, found, linked, ?_, fun other => ?_, ?_, ?_⟩
  · rw [tables]
    exact owned.deleteResponses_keepsOrder emergencyCall key
  · rw [tables]
    exact Tables.deleteResponses_response?_eq stores.tables key other
  · exact (App.comesTo_eq_some_iff.mp reached).2.2.2
  · exact App.current_of_loads rfl reached

/-- The only response of an emergency is opened and deleted. -/
theorem delete_removes_fire :
    let fire := Tables.empty.insertEmergency "Fire"
    let responded := fire.appendNew 0 ⟨"", "", 5⟩
    let left := responded.deleteResponses (· == 1)
    KeepsOrder 0 1 responded left ∧ left.response? 1 = none := by
  intro fire responded left
  let first : App := ⟨⟨⟨fire, none⟩, {}⟩, ⟨[0], {}, false⟩, none⟩
  let points := getPoints (Device.gmt "") ⟨⟨responded, none⟩, {}⟩ 0
  let listed : App := ⟨⟨⟨responded, none⟩, {}⟩, ⟨[0], points, false⟩, none⟩
  let response : ResponseDetails := .update (Device.gmt "") 7 7 0 (some ⟨1, ⟨"", "", 5⟩⟩)
  let details : EmergencyDetails := ⟨0, 0, "Fire", false, none⟩
  let shown : App := { listed with screen := some (.emergency details) }
  let opened : App :=
    { listed with screen := some (.emergency { details with response := some response }) }
  let after : App := ⟨⟨⟨left, none⟩, {}⟩, ⟨[0], {}, false⟩, some (.emergency details)⟩
  obtain ⟨history, runs⟩ := runs_fire
  have adds : Process.Step (Device.gmt "") (.running first)
      (.completed ⟨.onResponded 0, 5, true⟩) (.ended listed.stores) :=
    ⟨⟨rfl, by decide⟩, listed.stores, rfl, rfl⟩
  have last : Process.Step (Device.gmt "") (.ended listed.stores) (.launched 0) (.running listed) :=
    ⟨listed, App.launched_of_current ((totalsFit_iff_of_nil rfl).mpr (by decide))
      ⟨by decide +kernel, rfl, rfl⟩, rfl⟩
  have selected : Process.Step (Device.gmt "") (.running listed)
      (.gesture ⟨.didSelectEmergency 0, 7, true⟩) (.running shown) :=
    ⟨⟨rfl, by decide⟩, shown, rfl, rfl⟩
  have edited : Process.Step (Device.gmt "") (.running shown)
      (.gesture ⟨.didSelectResponse 0, 7, true⟩) (.running opened) :=
    ⟨⟨rfl, ⟨0, "Fire", [1]⟩, rfl, by decide⟩, opened, rfl, rfl⟩
  have loaded : EmergencyList.loadData (Device.gmt "") 7 after.stores = some after.list :=
    EmergencyList.loadData_eq_some_iff.mpr
      ⟨(totalsFit_iff_of_nil rfl).mpr (by decide), by decide +kernel, by decide +kernel, rfl⟩
  have handled : opened.handle (Device.gmt "") ⟨.onDeleteResponse, 7, true⟩ = some after :=
    (App.onDeleteResponse_eq rfl rfl _ 0 "Fire" false 7 true).trans
      (App.comesTo_eq_some_iff.mpr ⟨rfl, loaded, rfl, rfl⟩)
  have deletes : Process.Step (Device.gmt "") (.running opened)
      (.gesture ⟨.onDeleteResponse, 7, true⟩) (.running after) := ⟨trivial, after, handled, rfl⟩
  obtain ⟨key, row, same, -, -, order, gone, -, -⟩ := delete_removes
    (.step (.step (.step (.step runs adds) last) selected) edited) rfl rfl deletes
  obtain rfl : 1 = key := Option.some.inj same
  exact ⟨order, gone 1⟩

/-! ## Adding a response -/

/-- The event of the inputs that a gesture is. -/
def ProcessEvent.details? : ProcessEvent → Option DetailsEvent
  | .gesture ⟨.details event, _, _⟩ => some event
  | _ => none

/-- The events of a history on the inputs of a response screen. -/
def detailsEvents (history : List (Performed Process ProcessEvent)) : List DetailsEvent :=
  history.filterMap fun performed => performed.action.details?

/-- The screen of a new response is open over given stores, for an emergency,
with a copy that agrees with what it shows and has a date. -/
def Process.Adds (device : Device) (stores : Stores) (emergency : RowKey) (date : Date) :
    Process → Prop
  | .running app => app.stores = stores ∧ ∃ response value,
      app.screen = some (.newResponse response) ∧ response.response = none ∧
      response.emergency = emergency ∧ EditSession.Agrees device response value ∧ value.date = date
  | .ended _ => False

/-- An event of the inputs stores nothing and may change the date. -/
theorem Process.Adds.step {stores : Stores} {emergency : RowKey} {date now : Date}
    {event : DetailsEvent} {commits : Bool} {before after : Process}
    (adds : before.Adds device stores emergency date)
    (step : Process.Step device before (.gesture ⟨.details event, now, commits⟩) after) :
    after.Adds device stores emergency (EditSession.dateAfter date event) := by
  cases before with
  | ended stores => exact absurd adds id
  | running app =>
      obtain ⟨rfl, response, value, shown, new, rfl, agrees, rfl⟩ := adds
      obtain ⟨-, next, handled, rfl⟩ := step
      obtain ⟨stores, list, screen⟩ := app
      obtain rfl : screen = some (.newResponse response) := shown
      obtain ⟨changed, copy, agreesNext, date, sameResponse, sameEmergency, edited⟩ :=
        App.edit_eq agrees event .newResponse (.newResponse response)
      obtain rfl := Option.some.inj (edited.symm.trans handled)
      exact ⟨rfl, changed, copy, rfl, sameResponse.trans new, sameEmergency, agreesNext, date⟩

/-- A session of such events stores nothing, and the date then is that picked last. -/
theorem runs_adds {stores : Stores} {emergency : RowKey} {date : Date} {opened shown : Process}
    {session : List (Performed Process ProcessEvent)}
    (adds : opened.Adds device stores emergency date)
    (edits : Runs (Process.Step device) opened session shown)
    (only : ∀ performed ∈ session, ∃ event now commits,
      performed.action = .gesture ⟨.details event, now, commits⟩) :
    shown.Adds device stores emergency (EditSession.lastPicked date (detailsEvents session)) := by
  induction edits with
  | initial => exact adds
  | @step history before action after prior transition ih =>
      have here := ih fun performed member => only performed (List.mem_append_left _ member)
      obtain ⟨event, now, commits, rfl⟩ :=
        only _ (List.mem_append_right _ (List.mem_singleton_self _))
      have picked := here.step transition
      rwa [detailsEvents, List.filterMap_append, EditSession.lastPicked, List.foldl_append]

/-- Only the list offers to add a response with details. -/
theorem App.onList_of_opens {app : App} {index : Nat}
    (offered : app.Offers (.showResponseDetails index)) : app.screen = none := by
  obtain ⟨stores, list, screen⟩ := app
  match screen with
  | none => rfl
  | some (.emergency ⟨_, _, _, _, none⟩) => exact absurd offered id
  | some (.emergency ⟨_, _, _, _, some _⟩) => exact absurd offered id
  | some (.newResponse _) => exact absurd offered id
  | some (.points _) => exact absurd offered id

/-- Save on the screen of a new response adds what it shows. -/
theorem App.saveNew_adds {stores : Stores} {list : EmergencyList} {response : ResponseDetails}
    {value : Response} {after : App} {now : Date} {commits : Bool}
    (new : response.response = none) (agrees : EditSession.Agrees device response value)
    (handled : (App.mk stores list (some (.newResponse response))).handle device
      ⟨.onSave, now, commits⟩ = some after) :
    after.stores.tables = stores.tables.appendNew response.emergency
        ⟨response.incidentNumber, response.incidentDetails, value.date⟩ ∧
      after.stores.defaults = stores.defaults := by
  have reached := (App.saveNew_eq agrees stores list now commits).symm.trans handled
  have asks : (App.mk stores list (some (.newResponse response))).request
      ⟨.onSave, now, commits⟩ = some (.mutate (.addResponse (.unmanaged
        ⟨response.incidentNumber, response.incidentDetails, value.date⟩) response.emergency)) := by
    simp [App.request, EditSession.request_eq agrees, new]
  exact (App.appended_of_asks asks reached).2

/-- Whatever is done on the screen of a new response, nothing is stored before
Save. A Save then adds one response to the emergency at the row the screen was
opened for, as its last one, with the texts that are shown and the date picked
last, or that of the opening, and leaves all else as it was. -/
theorem newResponse_saves {stores : Stores} {index : Nat} {now later : Date}
    {commits written : Bool} {earlier session : List (Performed Process ProcessEvent)}
    {before opened shown after : App}
    (runs : Runs (Process.Step device) (.ended stores) earlier (.running before))
    (opens : Process.Step device (.running before)
      (.gesture ⟨.showResponseDetails index, now, commits⟩) (.running opened))
    (edits : Runs (Process.Step device) (.running opened) session (.running shown))
    (only : ∀ performed ∈ session, ∃ event now commits,
      performed.action = .gesture ⟨.details event, now, commits⟩)
    (saves : Process.Step device (.running shown) (.gesture ⟨.onSave, later, written⟩)
      (.running after)) :
    shown.stores = before.stores ∧ ∃ emergency row response left,
      before.list.emergencyTypes[index]? = some emergency ∧
      before.stores.tables.emergency? emergency = some row ∧
      shown.screen = some (.newResponse response) ∧
      after.stores.tables.emergency? emergency = some left ∧
      after.stores.tables.emergencyAt left =
        ⟨row.type, (before.stores.tables.emergencyAt row).responses ++
          [⟨response.incidentNumber, response.incidentDetails,
            EditSession.lastPicked now (detailsEvents session)⟩]⟩ ∧
      LeavesOthers emergency before.stores.tables after.stores.tables ∧
      after.stores.defaults = before.stores.defaults := by
  have coherent : before.Coherent device := runs_coherent runs
  obtain ⟨offered, _, handled, ⟨⟩⟩ := opens
  obtain ⟨before, list, screen⟩ := before
  obtain rfl : screen = none := App.onList_of_opens offered
  obtain ⟨instant, current⟩ := coherent
  obtain ⟨emergency, selected⟩ : ∃ emergency, list.emergencyTypes[index]? = some emergency :=
    ⟨_, List.getElem?_eq_getElem offered.2⟩
  have stored := EmergencyList.stored_of_listed current.listed selected
  obtain ⟨row, found⟩ := Option.isSome_iff_exists.mp stored
  have openedAs := (App.showResponseDetails_eq selected stored now commits).symm.trans handled
  obtain rfl := App.idle_eq rfl rfl openedAs
  have adds : Process.Adds device before emergency now (.running
      ⟨before, list, some (.newResponse (.update device now now emergency none))⟩) :=
    ⟨rfl, _, ⟨"", "", now⟩, rfl, rfl, rfl, ⟨rfl, fun _ => rfl, fun _ => rfl, rfl⟩, rfl⟩
  obtain ⟨same, response, value, screen, new, rfl, agrees, date⟩ := runs_adds adds edits only
  obtain ⟨shown, listShown, screenShown⟩ := shown
  obtain rfl : shown = before := same
  obtain rfl : screenShown = some (.newResponse response) := screen
  obtain ⟨-, _, saved, ⟨⟩⟩ := saves
  obtain ⟨tables, defaults⟩ := App.saveNew_adds new agrees saved
  obtain ⟨left, leads, presents⟩ := Tables.appendNew_presents found
    ⟨response.incidentNumber, response.incidentDetails, value.date⟩
  rw [← tables] at leads presents
  rw [date] at presents
  refine ⟨rfl, _, row, response, left, selected, found, rfl, leads, presents, ?_, defaults⟩
  rw [tables]
  exact Tables.appendNew_leavesOthers _ _

/-- A response with the number "8" is added to an emergency without any. -/
theorem newResponse_saves_fire :
    let fire := Tables.empty.insertEmergency "Fire"
    let responded := fire.appendNew 0 ⟨"8", "", 5⟩
    ∃ left, responded.emergency? 0 = some left ∧
      responded.emergencyAt left = ⟨"Fire", [⟨"8", "", 5⟩]⟩ := by
  intro fire responded
  let listed : App := ⟨⟨⟨fire, none⟩, {}⟩, ⟨[0], {}, false⟩, none⟩
  let new : ResponseDetails := .update (Device.gmt "") 5 5 0 none
  let focused := { new with firstResponder := some .incidentNumber }
  let typed := { focused with incidentNumber := "8" }
  let opened : App := { listed with screen := some (.newResponse new) }
  let begun : App := { listed with screen := some (.newResponse focused) }
  let shown : App := { listed with screen := some (.newResponse typed) }
  let points := getPoints (Device.gmt "") ⟨⟨responded, none⟩, {}⟩ 9
  let after : App := ⟨⟨⟨responded, none⟩, {}⟩, ⟨[0], points, false⟩, none⟩
  obtain ⟨history, runs⟩ := runs_fire
  have opens : Process.Step (Device.gmt "") (.running listed)
      (.gesture ⟨.showResponseDetails 0, 5, true⟩) (.running opened) :=
    ⟨⟨rfl, by decide⟩, opened, rfl, rfl⟩
  have begins : Process.Step (Device.gmt "") (.running opened)
      (.gesture ⟨.details (.beginEditing .incidentNumber), 6, true⟩) (.running begun) :=
    ⟨trivial, begun, rfl, rfl⟩
  have types : Process.Step (Device.gmt "") (.running begun)
      (.gesture ⟨.details (.type "8"), 7, true⟩) (.running shown) := ⟨trivial, shown, rfl, rfl⟩
  have agrees : EditSession.Agrees (Device.gmt "") typed ⟨"", "", 5⟩ :=
    ⟨rfl, fun other => absurd rfl other, fun _ => rfl, rfl⟩
  have loaded : EmergencyList.loadData (Device.gmt "") 9 after.stores = some after.list :=
    EmergencyList.loadData_eq_some_iff.mpr
      ⟨(totalsFit_iff_of_nil rfl).mpr (by decide), by decide +kernel, rfl, rfl⟩
  have handled : shown.handle (Device.gmt "") ⟨.onSave, 9, true⟩ = some after :=
    (App.saveNew_eq agrees _ _ 9 true).trans
      (App.comesTo_eq_some_iff.mpr ⟨rfl, loaded, rfl, rfl⟩)
  have saves : Process.Step (Device.gmt "") (.running shown) (.gesture ⟨.onSave, 9, true⟩)
      (.running after) := ⟨trivial, after, handled, rfl⟩
  have only : ∀ performed ∈ [(⟨.running opened, .gesture ⟨.details (.beginEditing .incidentNumber),
      6, true⟩, .running begun⟩ : Performed Process ProcessEvent),
      ⟨.running begun, .gesture ⟨.details (.type "8"), 7, true⟩, .running shown⟩],
      ∃ event now commits, performed.action = .gesture ⟨.details event, now, commits⟩ := by simp
  obtain ⟨-, emergency, row, response, left, selected, found, screen, leads, presents, -, -⟩ :=
    newResponse_saves runs opens (.step (.step .initial begins) types) only saves
  obtain rfl : 0 = emergency := Option.some.inj selected
  obtain rfl : ⟨0, "Fire", []⟩ = row := Option.some.inj found
  obtain rfl : typed = response := Screen.newResponse.inj (Option.some.inj screen)
  exact ⟨left, leads, presents⟩

end ResponseTracker
