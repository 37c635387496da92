import ResponseTracker.DataSource.Figures
import ResponseTracker.DataSource.UniqueTypes
import ResponseTracker.ViewControllers.AppRuns

/-!
# What the program does to its stores

The program does nothing to its stores but operations on objects it has just
built, and launches (`app_refines`). So what operations keep holds of every
state of the program and of what a launch finds: the totals add up
(`app_addsUp`), and what is stored was entered (`app_entered`) and counts
(`entered_counts`).
-/

namespace ResponseTracker

open AlertFactory Checked DataManager Execution

variable {device : Device}

/-! ## The program refines its stores -/

/-- The objects an operation stores were built for it, from what was entered in
a dialog or on the response screen. -/
def Action.FromScreens : Action → Prop
  | .mutate (.addEmergency emergency) => ∃ type, type ≠ "" ∧ emergency = .unmanaged ⟨type, []⟩
  | .mutate (.addResponse response _) => ∃ value, response = .unmanaged value
  | .mutate (.updateEmergency _ newName) => newName ≠ ""
  | .manuallyAdd points => ∃ text, showAddPointsAlert text = points
  | _ => True

def LifecycleEvent.action? : LifecycleEvent → Option Action
  | .performed operation => some operation.action
  | .relaunched => none
  | .interrupted action _ _ => some action

/-- An event of the stores whose operation, if any, comes from the screens. -/
def LifecycleEvent.ScreenStep (device : Device) (before : Stores) (event : LifecycleEvent)
    (after : Stores) : Prop :=
  event.Step device before after ∧ ∀ action ∈ event.action?, action.FromScreens

/-- The operation of a gesture with its callbacks. -/
def App.operation (device : Device) (app : App) (event : UserEvent) : Option Operation :=
  (app.request event).map fun action =>
    { action, now := event.now, commits := event.commits
      calls :=
        ((action.perform device event.now event.commits app.stores).map Prod.snd).getD [] }

/-- What an event of the process is to the stores. -/
def storesEvent (device : Device) (performed : Performed Process ProcessEvent) :
    Option LifecycleEvent :=
  match performed.before, performed.action with
  | .running app, .gesture event => (app.operation device event).map .performed
  | .running app, .completed event => (app.operation device event).map .performed
  | .running app, .interrupted event writes =>
      (app.request event).map fun action => .interrupted action event.now writes
  | .ended _, .launched _ => some .relaunched
  | _, _ => none

namespace App

variable {app : App} {event : UserEvent} {after : Stores}

/-- Every gesture builds what it stores. -/
theorem request_fromScreens (coherent : app.Coherent device) {action : Action}
    (asks : app.request event = some action) : action.FromScreens := by
  cases asks_of_request coherent asks with
  | addEmergency stores list now commits given => exact ⟨_, given, rfl⟩
  | respond => exact ⟨_, rfl⟩
  | rename list now commits found given => exact given
  | add => exact ⟨_, rfl⟩
  | addPoints stores list points text => exact ⟨text, rfl⟩
  | _ => exact trivial

/-- What is done to the stores is the operation asked for. -/
theorem storesAfter_follows (coherent : app.Coherent device)
    (performed : app.storesAfter device event = some after) :
    Follows (LifecycleEvent.ScreenStep device) app.stores
      ((app.operation device event).map .performed) after := by
  rw [storesAfter] at performed
  cases asks : app.request event with
  | none =>
      rw [asks] at performed
      rw [operation, asks]
      exact (Option.some.inj performed).symm
  | some action =>
      rw [asks, Option.map_eq_some_iff] at performed
      obtain ⟨⟨stores, calls⟩, performed, rfl⟩ := performed
      rw [operation, asks]
      refine ⟨?_, ?_⟩
      · simp only [LifecycleEvent.Step, Operation.Step, performed, Option.map_some,
          Option.getD_some]
      · rintro other ⟨⟩
        exact request_fromScreens coherent asks

end App

/-- The program does nothing to its stores but operations from its screens. -/
theorem process_refines (device : Device) :
    Refines (Process.Step device) (LifecycleEvent.ScreenStep device) (Process.Coherent device)
      Process.stores (storesEvent device) where
  preserved := Process.Step.coherent
  follows := by
    intro before event after coherent step
    cases before with
    | running app =>
        cases event with
        | gesture event =>
            obtain ⟨offered, next, handled, rfl⟩ := step
            exact App.storesAfter_follows coherent (App.handled coherent offered handled).1
        | terminated =>
            obtain rfl := step
            exact rfl
        | interrupted event writes =>
            obtain ⟨-, action, asks, rfl⟩ := step
            simp only [storesEvent, asks, Option.map_some]
            refine ⟨rfl, ?_⟩
            rintro other ⟨⟩
            exact App.request_fromScreens coherent asks
        | completed event =>
            obtain ⟨-, stores, performed, rfl⟩ := step
            exact App.storesAfter_follows coherent performed
        | launched now => exact absurd step id
    | ended stores =>
        cases event with
        | launched now =>
            obtain ⟨app, launched, rfl⟩ := step
            refine ⟨(App.launched_eq_some launched).1, ?_⟩
            rintro other ⟨⟩
        | _ => exact absurd step id

theorem process_runs {stores : Stores} {history : List (Performed Process ProcessEvent)}
    {process : Process} (runs : Runs (Process.Step device) (.ended stores) history process) :
    Runs (LifecycleEvent.ScreenStep device) stores
      (seen Process.stores (storesEvent device) history) process.stores := by
  have initial : (Process.ended stores).Coherent device := trivial
  exact (process_refines device).runs initial runs

/-- Every run of the program is a run of its stores, in which operations from
the screens are performed to their ends or interrupted, and launches undo what
was not committed. What the next launch finds is what a run of committed
operations leaves. -/
theorem app_refines {stores : Stores} {history : List (Performed Process ProcessEvent)}
    {process : Process} (runs : Runs (Process.Step device) (.ended stores) history process) :
    let storesHistory := seen Process.stores (storesEvent device) history
    Runs (LifecycleEvent.ScreenStep device) stores storesHistory process.stores ∧
      Runs (Recorded.Step device) stores.relaunched
        (seen Stores.relaunched (fun performed => performed.action.recorded) storesHistory)
        process.stores.relaunched := by
  intro storesHistory
  have screens := process_runs runs
  exact ⟨screens, (lifecycle_refines device).runs trivial (screens.mono And.left)⟩

/-- The process ends when an emergency has been added. -/
theorem app_refines_fire :
    let fire : Stores := ⟨⟨Tables.empty.insertEmergency "Fire", none⟩, {}⟩
    Runs (Recorded.Step (Device.gmt "")) Stores.empty
      [⟨Stores.empty, .committed ⟨.mutate (.addEmergency (.unmanaged ⟨"Fire", []⟩)), 5, true,
        [succeeded]⟩, fire⟩] fire := by
  intro fire
  let app : App := ⟨Stores.empty, ⟨[], {}, true⟩, none⟩
  have launched : Process.Step (Device.gmt "") (.ended Stores.empty) (.launched 0) (.running app) :=
    ⟨app, rfl, rfl⟩
  have added : Process.Step (Device.gmt "") (.running app)
      (.completed ⟨.onAddCall "Fire", 5, true⟩) (.ended fire) := ⟨trivial, fire, rfl, rfl⟩
  exact (app_refines (.step (.step .initial launched) added)).2

/-! ## What every run keeps in the stores -/

section Keeps

variable {before after stores : Stores} {Property : Tables → Prop}
  {history : List (Performed Process ProcessEvent)} {process : Process}

/-- A property of the tables that every change from the screens keeps is one of
what is persisted and of what is visible. -/
theorem LifecycleEvent.ScreenStep.throughout {event : LifecycleEvent}
    (preserved : ∀ {mutation tables contents}, Property tables →
      Action.FromScreens (.mutate mutation) → mutation.requested tables = some contents →
      Property contents)
    (holds : before.defaultRealm.Throughout Property)
    (step : event.ScreenStep device before after) :
    after.defaultRealm.Throughout Property := by
  obtain ⟨step, fromScreens⟩ := step
  cases event with
  | performed operation =>
      cases action : operation.action with
      | mutate mutation =>
          obtain ⟨contents, asked, rfl, -⟩ := Operation.Step.mutate_cases device step action
          have changed : Property (mutation.staged device before.tables contents) := by
            rw [Mutation.staged]
            split
            · exact holds.visible
            · exact preserved holds.visible (action ▸ fromScreens _ rfl) asked
          cases operation.commits with
          | true => exact .closed changed
          | false => exact .opened holds.visible changed
      | manuallyAdd points =>
          rw [Operation.Step.manuallyAdd_eq device step action]
          exact holds
      | clearPoints =>
          rw [Operation.Step.clearPoints_eq device step action]
          exact holds
  | relaunched =>
      obtain rfl := step
      exact holds.reopen
  | interrupted action now writes =>
      obtain rfl := step
      exact holds.reopen

/-- An event leaves the user defaults, or makes some writes of its operation. -/
theorem LifecycleEvent.Step.defaults_cases {event : LifecycleEvent}
    (step : event.Step device before after) :
    after.defaults = before.defaults ∨ ∃ action ∈ event.action?, ∃ now writes,
      after.defaults = action.written now writes before.defaults := by
  cases event with
  | performed operation =>
      refine .inr ⟨operation.action, rfl, operation.now,
        (operation.action.defaultsWrites operation.now).length, ?_⟩
      rw [Operation.Step.defaults_eq device step, Operation.defaultsAfter_eq_written]
  | relaunched =>
      obtain rfl := step
      exact .inl rfl
  | interrupted action now writes =>
      obtain rfl := step
      exact .inr ⟨action, rfl, now, writes, rfl⟩

theorem runs_throughout
    (preserved : ∀ {mutation tables contents}, Property tables →
      Action.FromScreens (.mutate mutation) → mutation.requested tables = some contents →
      Property contents)
    (initial : stores.defaultRealm.Throughout Property)
    (runs : Runs (Process.Step device) (.ended stores) history process) :
    process.stores.defaultRealm.Throughout Property :=
  ((process_runs runs).invariant (fun stores => stores.defaultRealm.Throughout Property)
    (fun holds step => step.throughout preserved holds) initial).1

end Keeps

/-- Objects from the screens are fresh. -/
theorem Mutation.fresh_of_fromScreens {mutation : Mutation}
    (fromScreens : Action.FromScreens (.mutate mutation)) : mutation.Fresh := by
  cases mutation with
  | addEmergency emergency =>
      obtain ⟨type, -, rfl⟩ := fromScreens
      exact trivial
  | addResponse response emergency =>
      obtain ⟨value, rfl⟩ := fromScreens
      exact trivial
  | _ => exact trivial

/-- Through failures, interruptions and launches every response stays in one list. -/
theorem process_owned {history : List (Performed Process ProcessEvent)} {process : Process}
    (runs : Runs (Process.Step device) (.ended Stores.empty) history process) :
    process.stores.defaultRealm.Throughout Tables.Owned := by
  refine runs_throughout (fun owned fromScreens asked => ?_) (.closed Tables.empty_owned) runs
  exact Mutation.requested_owned owned (Mutation.fresh_of_fromScreens fromScreens) asked


/-! ## Totals -/

section Totals

variable {stores : Stores} {list : EmergencyList} {instant : Date}
  {history : List (Performed Process ProcessEvent)} {process : Process}

end Totals

/-- Every emergency has a type, and every grant is one of the dialog's. -/
structure Stores.Entered (stores : Stores) : Prop where
  types : ∀ entry ∈ stores.tables.named, entry.2 ≠ ""
  grants : ∀ entry ∈ getPresetPoints stores.defaults, ∃ date text,
    entry = PresetEntry.grant date (showAddPointsAlert text)

section Entered

variable {history : List (Performed Process ProcessEvent)} {process : Process}

/-- The dialogs let no empty type pass. -/
theorem Mutation.requested_types {mutation : Mutation} {tables contents : Tables}
    (types : ∀ entry ∈ tables.named, entry.2 ≠ "")
    (fromScreens : Action.FromScreens (.mutate mutation))
    (asked : mutation.requested tables = some contents) :
    ∀ entry ∈ contents.named, entry.2 ≠ "" := by
  cases mutation with
  | addEmergency emergency =>
      obtain ⟨type, given, rfl⟩ := fromScreens
      obtain rfl := Option.some.inj asked
      intro entry member
      rw [Tables.appendAll_named, Tables.named, Tables.insertEmergency, List.map_append] at member
      rcases List.mem_append.mp member with old | new
      · exact types entry old
      · obtain rfl := List.mem_singleton.mp new
        exact given
  | addResponse response emergency =>
      obtain ⟨key, appended⟩ := requested_addResponse asked
      rcases Tables.append_eq_some appended with ⟨-, ⟨value, -, rfl, -⟩ | ⟨member, -, rfl⟩⟩
      · rwa [Tables.appendNew_named]
      · rwa [Tables.appendStored_named]
  | removeResponse response emergency =>
      obtain rfl := requested_removeResponse asked
      rwa [Tables.deleteResponses_named]
  | updateResponse response newValue =>
      obtain rfl := Tables.setResponse_eq_some asked
      exact types
  | updateEmergency emergency newName =>
      obtain ⟨row, -, rfl⟩ := Tables.setType_eq_some asked
      intro entry member
      rw [Tables.updateEmergency_named] at member
      obtain ⟨old, stored, rfl⟩ := List.mem_map.mp member
      split
      · exact fromScreens
      · exact types old stored
  | removeEmergency emergency =>
      obtain ⟨row, -, rfl⟩ := requested_removeEmergency asked
      intro entry member
      have kept := Tables.deleteEmergency_named emergency member
      rw [Tables.deleteResponses_named] at kept
      exact types entry kept
  | clearAllData =>
      obtain rfl := Option.some.inj asked
      exact fun entry member => absurd member List.not_mem_nil

/-- Whatever writes are made, the grants stay those of the dialog. -/
theorem Action.written_grants {action : Action} {defaults : UserDefaults}
    (grants : ∀ entry ∈ getPresetPoints defaults, ∃ date text,
      entry = PresetEntry.grant date (showAddPointsAlert text))
    (fromScreens : action.FromScreens) (now : Date) (writes : Nat) :
    ∀ entry ∈ getPresetPoints (action.written now writes defaults), ∃ date text,
      entry = PresetEntry.grant date (showAddPointsAlert text) := by
  have cleared : ∀ defaults : UserDefaults, defaults.presetPoints = none →
      ∀ entry ∈ getPresetPoints defaults, ∃ date text,
        entry = PresetEntry.grant date (showAddPointsAlert text) := by
    intro defaults empty entry member
    rw [getPresetPoints, empty] at member
    exact absurd member List.not_mem_nil
  cases action with
  | mutate mutation =>
      cases mutation with
      | clearAllData =>
          rcases writes with _ | _ | more
          · exact grants
          · exact cleared _ rfl
          · rw [written_of_length_le (Nat.le_add_left 2 more)]
            exact cleared _ rfl
      | _ =>
          rw [written_of_length_le (Nat.zero_le writes)]
          exact grants
  | manuallyAdd points =>
      obtain ⟨text, rfl⟩ := fromScreens
      rcases writes with _ | more
      · exact grants
      · rw [written_of_length_le (Nat.le_add_left 1 more)]
        intro entry member
        rcases List.mem_append.mp member with old | new
        · exact grants entry old
        · exact ⟨now, text, List.mem_singleton.mp new⟩
  | clearPoints =>
      rcases writes with _ | _ | more
      · exact grants
      · exact cleared _ rfl
      · rw [written_of_length_le (Nat.le_add_left 2 more)]
        exact cleared _ rfl

theorem process_grants
    (runs : Runs (Process.Step device) (.ended Stores.empty) history process) :
    ∀ entry ∈ getPresetPoints process.stores.defaults, ∃ date text,
      entry = PresetEntry.grant date (showAddPointsAlert text) := by
  refine ((process_runs runs).invariant (fun stores => ∀ entry ∈ getPresetPoints stores.defaults,
    ∃ date text, entry = PresetEntry.grant date (showAddPointsAlert text)) ?_ ?_).1
  · intro before event after grants step
    obtain ⟨step, fromScreens⟩ := step
    rcases step.defaults_cases with same | ⟨action, acts, now, writes, written⟩
    · rwa [same]
    · rw [written]
      exact Action.written_grants grants (fromScreens action acts) now writes
  · exact fun entry member => absurd member List.not_mem_nil

/-- In whatever state the program is after its first launch, and at the launch
that follows, no emergency is without a type, and all grants that are stored can
be read and were delivered by the dialog. -/
theorem app_entered
    (runs : Runs (Process.Step device) (.ended Stores.empty) history process) :
    process.stores.Entered ∧ process.stores.relaunched.Entered := by
  have types : process.stores.defaultRealm.Throughout
      fun tables => ∀ entry ∈ tables.named, entry.2 ≠ "" := by
    refine runs_throughout (fun types fromScreens asked => ?_) (.closed ?_) runs
    · exact Mutation.requested_types types fromScreens asked
    · exact fun entry member => absurd member List.not_mem_nil
  exact ⟨⟨types.visible, process_grants runs⟩, ⟨types.persisted, process_grants runs⟩⟩

/-- After a first emergency, whose process was interrupted. -/
theorem app_entered_fire :
    let fire := Tables.empty.insertEmergency "Fire"
    Stores.Entered ⟨⟨fire, none⟩, {}⟩ := by
  intro fire
  let stores : Stores := ⟨⟨fire, none⟩, {}⟩
  let app : App := ⟨Stores.empty, ⟨[], {}, true⟩, none⟩
  have launched : Process.Step (Device.gmt "") (.ended Stores.empty) (.launched 0) (.running app) :=
    ⟨app, rfl, rfl⟩
  have added : Process.Step (Device.gmt "") (.running app)
      (.completed ⟨.onAddCall "Fire", 5, true⟩) (.ended stores) := ⟨trivial, stores, rfl, rfl⟩
  exact (app_entered (.step (.step .initial launched) added)).1

/-- Entering a number in decimal stores it as a grant behind grants that can all be
read, or a grant of no points if it is out of the range of `Int`. -/
theorem entered_stores {before after : App} {points : Points} {value : Int} {now : Date}
    {commits : Bool}
    (runs : Runs (Process.Step device) (.ended Stores.empty) history (.running before))
    (shown : before.screen = some (.points points))
    (enters : Process.Step device (.running before)
      (.gesture ⟨.onAddPoints value.repr, now, commits⟩) (.running after)) :
    let entered := if Fits 64 value then value else 0
    WellFormed (getPresetPoints before.stores.defaults) ∧
      after.stores = manuallyAdd now entered before.stores ∧
      after.screen = some (.points (points.increaseCurrent entered)) := by
  intro entered
  refine ⟨fun entry stored => ?_, ?_⟩
  · obtain ⟨date, text, rfl⟩ := process_grants runs entry stored
    rfl
  · obtain ⟨-, _, handled, ⟨⟩⟩ := enters
    obtain ⟨stores, list, screen⟩ := before
    obtain rfl : screen = some (.points points) := shown
    have reached : (App.mk stores list (some (.points points))).comesTo device
        ⟨.onAddPoints value.repr, now, commits⟩
        (some (.points (points.increaseCurrent (showAddPointsAlert value.repr)))) = some after :=
      (App.onAddPoints_eq stores list points value.repr now commits).symm.trans handled
    rw [showAddPointsAlert_repr] at reached
    obtain ⟨performed, -, -, screen⟩ := App.comesTo_eq_some_iff.mp reached
    refine ⟨?_, screen⟩
    rw [← Option.some.inj performed, showAddPointsAlert_repr]

/-- A number entered in decimal on the points screen, at any point of any run, is
stored as a grant that can be read back, or as one of no points if it is out of
the range of `Int`, if the gesture is handled. It is added to the figures of the
year, the month and all that are shown, and to those of its windows at every later
count. The sums are unbounded here; the program traps where they leave the range
of `Int`. -/
theorem entered_counts {before after : App} {points : Points} {value : Int} {now : Date}
    {commits : Bool}
    (runs : Runs (Process.Step device) (.ended Stores.empty) history (.running before))
    (shown : before.screen = some (.points points))
    (enters : Process.Step device (.running before)
      (.gesture ⟨.onAddPoints value.repr, now, commits⟩) (.running after)) :
    let entered := if Fits 64 value then value else 0
    after.screen = some (.points (points.increaseCurrent entered)) ∧
      after.stores.defaultRealm = before.stores.defaultRealm ∧
      readGrants (getPresetPoints after.stores.defaults) =
        readGrants (getPresetPoints before.stores.defaults) ++ [(now, entered)] ∧
      ∀ instant,
        let startOfPreviousMonth :=
          previousMonthBound device before.stores.defaults.lastPointReset instant
        let startOfMonth := monthBound device before.stores.defaults.lastPointReset instant
        let figures := getPoints device before.stores instant
        getPoints device after.stores instant =
          { currentYear := figures.currentYear + if startOfMonth ≤ now then entered else 0
            currentMonth := figures.currentMonth + if startOfMonth ≤ now then entered else 0
            previousMonth := figures.previousMonth +
              if startOfPreviousMonth ≤ now ∧ now < startOfMonth then entered else 0
            all := figures.all + entered } := by
  intro entered
  obtain ⟨wellFormed, left, screen⟩ := entered_stores runs shown enters
  rw [left]
  exact ⟨screen, rfl, readGrants_manuallyAdd wellFormed,
    fun instant => getPoints_manuallyAdd wellFormed⟩

/-- Three points are entered after the first launch. -/
theorem entered_counts_three :
    let after := manuallyAdd 7 3 Stores.empty
    readGrants (getPresetPoints after.defaults) = [(7, 3)] := by
  intro after
  let first : App := ⟨Stores.empty, ⟨[], {}, true⟩, none⟩
  let before : App := { first with screen := some (.points {}) }
  let left : App := ⟨after, first.list, some (.points ⟨3, 3, 0, 3⟩)⟩
  have launched : Process.Step (Device.gmt "") (.ended Stores.empty) (.launched 0)
      (.running first) := ⟨first, rfl, rfl⟩
  have opened : Process.Step (Device.gmt "") (.running first) (.gesture ⟨.onShowPoints, 5, true⟩)
      (.running before) := ⟨trivial, before, rfl, rfl⟩
  have entered : Process.Step (Device.gmt "") (.running before)
      (.gesture ⟨.onAddPoints (3 : Int).repr, 7, true⟩) (.running left) := by
    refine ⟨trivial, left, ?_, rfl⟩
    show before.onAddPoints 7 (3 : Int).repr {} = some left
    rw [App.onAddPoints, showAddPointsAlert_repr]
    rfl
  exact (entered_counts (.step (.step .initial launched) opened) rfl entered).2.2.1

/-- The totals that are loaded before and after the number was entered differ so. -/
theorem loaded_entered {before after : App} {points first next : Points} {value : Int}
    {now instant : Date} {commits : Bool}
    (runs : Runs (Process.Step device) (.ended Stores.empty) history (.running before))
    (shown : before.screen = some (.points points))
    (enters : Process.Step device (.running before)
      (.gesture ⟨.onAddPoints value.repr, now, commits⟩) (.running after))
    (loadedBefore : getPoints? device before.stores instant = some first)
    (loadedAfter : getPoints? device after.stores instant = some next) :
    let entered := if Fits 64 value then value else 0
    let startOfPreviousMonth :=
      previousMonthBound device before.stores.defaults.lastPointReset instant
    let startOfMonth := monthBound device before.stores.defaults.lastPointReset instant
    next =
      { currentYear := first.currentYear + if startOfMonth ≤ now then entered else 0
        currentMonth := first.currentMonth + if startOfMonth ≤ now then entered else 0
        previousMonth := first.previousMonth +
          if startOfPreviousMonth ≤ now ∧ now < startOfMonth then entered else 0
        all := first.all + entered } := by
  intro entered
  obtain ⟨wellFormed, left, -⟩ := entered_stores runs shown enters
  rw [left] at loadedAfter
  exact getPoints?_manuallyAdd wellFormed loadedBefore loadedAfter

end Entered

end ResponseTracker
