import ResponseTracker.DataSource.EmergencyBook
import ResponseTracker.ViewControllers.AppStores

/-!
# The program as a book

From the first launch to the next one the program, its operations, failures and
ends of its processes refine the book of emergencies (`app_implements_book`).
-/

namespace ResponseTracker

open DataManager Execution Book

variable {device : Device}

/-- What a launch finds done, with fresh objects. -/
def Recorded.FreshStep (device : Device) (before : Stores) (recorded : Recorded)
    (after : Stores) : Prop :=
  recorded.Step device before after ∧
    ∀ operation, recorded = .committed operation → operation.action.Fresh

theorem Action.fresh_of_fromScreens {action : Action} (fromScreens : action.FromScreens) :
    action.Fresh := by
  cases action with
  | mutate mutation => exact mutation.fresh_of_fromScreens fromScreens
  | _ => exact trivial

/-- What is found of an interrupted operation is one on the user defaults alone. -/
theorem Action.recorded_cases {action : Action} {now : Date} {writes : Nat} {recorded : Recorded}
    (found : action.recorded now writes = some recorded) :
    recorded = .grantsCleared ∨ recorded = .defaultsOnly .clearPoints now ∨
      ∃ points, recorded = .defaultsOnly (.manuallyAdd points) now := by
  unfold Action.recorded at found
  split at found
  · exact .inl (Option.some.inj found).symm
  · exact .inl (Option.some.inj found).symm
  · exact .inr (.inl (Option.some.inj found).symm)
  · exact .inr (.inl (Option.some.inj found).symm)
  · exact .inr (.inr ⟨_, (Option.some.inj found).symm⟩)
  · exact absurd found (by simp)

/-- What is found of an operation has its freshness. -/
theorem Operation.recorded_fresh {performed operation : Operation} (fresh : performed.action.Fresh)
    (found : performed.recorded = some (.committed operation)) : operation.action.Fresh := by
  unfold Operation.recorded at found
  split at found
  · obtain rfl := Recorded.committed.inj (Option.some.inj found)
    exact trivial
  · exact absurd found (by simp)
  · obtain rfl := Recorded.committed.inj (Option.some.inj found)
    exact fresh
  · obtain rfl := Recorded.committed.inj (Option.some.inj found)
    exact fresh

/-- The stores as the next launch will find them follow each event from the
screens with fresh objects. -/
theorem screens_refine (device : Device) :
    Refines (LifecycleEvent.ScreenStep device) (Recorded.FreshStep device) (fun _ => True)
      Stores.relaunched fun performed => performed.action.recorded where
  preserved _ _ := trivial
  follows := by
    intro before event after _ step
    obtain ⟨step, fromScreens⟩ := step
    have followed := (lifecycle_refines device).follows trivial step
    cases named : event.recorded with
    | none =>
        rw [named] at followed
        exact followed
    | some recorded =>
        rw [named] at followed
        refine ⟨followed, ?_⟩
        rintro operation rfl
        cases event with
        | performed performed =>
            exact Operation.recorded_fresh (Action.fresh_of_fromScreens (fromScreens _ rfl)) named
        | relaunched => exact absurd named (by simp [LifecycleEvent.recorded])
        | interrupted action now writes =>
            rcases Action.recorded_cases named with same | same | ⟨points, same⟩
            · exact absurd same (by simp)
            · obtain rfl := Recorded.committed.inj same
              exact trivial
            · obtain rfl := Recorded.committed.inj same
              exact trivial

/-- The change of the book that a launch finds done. -/
def recordedChange (device : Device) (performed : Performed Stores Recorded) :
    Option EmergencyChange :=
  match performed.action with
  | .committed operation => bookChange device ⟨performed.before, operation, performed.after⟩
  | .grantsCleared => none

/-- What launches find refines the book. -/
theorem recorded_refines_book (device : Device) :
    Refines (Recorded.FreshStep device) Change.Step (fun stores => stores.tables.Owned)
      (fun stores => stores.tables.book) (recordedChange device) where
  preserved := by
    intro before recorded after owned step
    obtain ⟨step, fresh⟩ := step
    cases recorded with
    | committed operation =>
        exact Operation.FreshStep.owned owned ⟨step.2, fresh operation rfl⟩
    | grantsCleared =>
        obtain rfl := step
        exact owned
  follows := by
    intro before recorded after owned step
    obtain ⟨step, fresh⟩ := step
    cases recorded with
    | committed operation =>
        exact (stores_refine_book device).follows owned ⟨step.2, fresh operation rfl⟩
    | grantsCleared =>
        obtain rfl := step
        exact rfl

/-- The changes of the book that the next launch finds of a run of the program. -/
def durableChanges (device : Device) (history : List (Performed Process ProcessEvent)) :
    List (Performed EmergencyBook EmergencyChange) :=
  seen (fun stores => stores.tables.book) (recordedChange device)
    (seen Stores.relaunched (fun performed => performed.action.recorded)
      (seen Process.stores (storesEvent device) history))

/-- The whole program keeps a book. Whatever the user does from the first launch
on, whatever commits fail and wherever processes end, what the next launch finds
is the empty book after a run of allowed changes, one for each mutation that was
committed, and it is what is shown unless a transaction was left open. -/
theorem app_implements_book {history : List (Performed Process ProcessEvent)} {process : Process}
    (runs : Runs (Process.Step device) (.ended Stores.empty) history process) :
    Runs Change.Step (fun _ => none) (durableChanges device history)
        process.stores.relaunched.tables.book ∧
      (process.stores.defaultRealm.staged = none →
        process.stores.tables.book = process.stores.relaunched.tables.book) := by
  have found := (screens_refine device).runs trivial (process_runs runs)
  have owned : Stores.empty.relaunched.tables.Owned := Tables.empty_owned
  refine ⟨(recorded_refines_book device).runs owned found, fun closed => ?_⟩
  rw [Stores.relaunched_eq_self closed]

/-- The process ends when an emergency has been added. -/
theorem app_implements_book_fire :
    let fire := Tables.empty.insertEmergency "Fire"
    Runs Change.Step (fun _ => none)
      [(⟨Tables.empty.book, .insert 0 ⟨"Fire", []⟩, fire.book⟩ :
        Performed EmergencyBook EmergencyChange)] fire.book := by
  intro fire
  let stores : Stores := ⟨⟨fire, none⟩, {}⟩
  let app : App := ⟨Stores.empty, ⟨[], {}, true⟩, none⟩
  have launched : Process.Step (Device.gmt "") (.ended Stores.empty) (.launched 0) (.running app) :=
    ⟨app, rfl, rfl⟩
  have added : Process.Step (Device.gmt "") (.running app)
      (.completed ⟨.onAddCall "Fire", 5, true⟩) (.ended stores) := ⟨trivial, stores, rfl, rfl⟩
  exact (app_implements_book (.step (.step .initial launched) added)).1

end ResponseTracker
