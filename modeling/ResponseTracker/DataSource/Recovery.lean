import ResponseTracker.DataSource.Mutations
import ResponseTracker.Std.Simulation

/-!
# Launches

The process may end between two operations or inside one, and the program is
then launched again: the database opens at its last commit, while user defaults
keep what was written so far. `relaunch_replays` says which committed
operations a launch finds done, and `lost_iff` what it finds undone.

Clearing is the one operation with two writes to the user defaults. Ended
between them, it has removed the grants but left no reset.
-/

namespace ResponseTracker

open DataManager Execution Mutation

/-- The stores as a launch opens them. -/
def Stores.relaunched (stores : Stores) : Stores :=
  { stores with defaultRealm := stores.defaultRealm.reopen }

/-- The writes of an operation to the user defaults, in order. -/
def Action.defaultsWrites (now : Date) : Action → List (UserDefaults → UserDefaults)
  | .mutate .clearAllData => [clearPresetPoints, setLastClearPoints now]
  | .mutate _ => []
  | .manuallyAdd points => [fun defaults => { defaults with presetPoints := some (.archive
      (getPresetPoints defaults ++ [PresetEntry.grant now points])) }]
  | .clearPoints => [clearPresetPoints, setLastClearPoints now]

/-- The user defaults after some of these writes. -/
def Action.written (now : Date) (writes : Nat) (defaults : UserDefaults) (action : Action) :
    UserDefaults :=
  ((action.defaultsWrites now).take writes).foldl (fun defaults write => write defaults) defaults

/-- An operation that runs to its end, or the end of the process: between two
operations, or inside one, after some of its writes to the user defaults and
before its commit. -/
inductive LifecycleEvent where
  | performed (operation : Operation)
  | relaunched
  | interrupted (action : Action) (now : Date) (writes : Nat)

/-- A process that ends is followed by the next launch. -/
def LifecycleEvent.Step (device : Device) (before : Stores) (event : LifecycleEvent)
    (after : Stores) : Prop :=
  match event with
  | .performed operation => operation.Step device before after
  | .relaunched => after = before.relaunched
  | .interrupted action now writes =>
      after = { before.relaunched with defaults := action.written now writes before.defaults }

/-- What a launch can find done: an operation that was committed, or the grants
removed without a reset. -/
inductive Recorded where
  | committed (operation : Operation)
  | grantsCleared

def Recorded.Step (device : Device) (before : Stores) (recorded : Recorded)
    (after : Stores) : Prop :=
  match recorded with
  | .committed operation => operation.commits = true ∧ operation.Step device before after
  | .grantsCleared => after = { before with defaults := clearPresetPoints before.defaults }

/-- An operation on the user defaults alone. -/
def Recorded.defaultsOnly (action : Action) (now : Date) : Recorded :=
  .committed ⟨action, now, true, []⟩

/-- What the next launch finds of an operation. Of a failed `clearAllData` it
finds that the points were reset. -/
def Operation.recorded (operation : Operation) : Option Recorded :=
  match operation.action, operation.commits with
  | .mutate .clearAllData, false => some (.defaultsOnly .clearPoints operation.now)
  | .mutate _, false => none
  | .mutate _, true => some (.committed operation)
  | action, _ => some (.defaultsOnly action operation.now)

/-- What the next launch finds of an operation the process ended in. -/
def Action.recorded (now : Date) (writes : Nat) (action : Action) : Option Recorded :=
  match action, writes with
  | .mutate .clearAllData, 1 | .clearPoints, 1 => some .grantsCleared
  | .mutate .clearAllData, _ + 2 | .clearPoints, _ + 2 => some (.defaultsOnly .clearPoints now)
  | .manuallyAdd points, _ + 1 => some (.defaultsOnly (.manuallyAdd points) now)
  | _, _ => none

def LifecycleEvent.recorded : LifecycleEvent → Option Recorded
  | .performed operation => operation.recorded
  | .relaunched => none
  | .interrupted action now writes => action.recorded now writes

/-! ## User defaults -/

/-- Run to its end, an operation has made all its writes. -/
theorem Operation.defaultsAfter_eq_written (defaults : UserDefaults) (operation : Operation) :
    operation.defaultsAfter defaults =
      operation.action.written operation.now (operation.action.defaultsWrites operation.now).length
        defaults := by
  rw [Action.written, List.take_length, Operation.defaultsAfter]
  cases operation.action with
  | mutate mutation => cases mutation <;> rfl
  | manuallyAdd points => rfl
  | clearPoints => rfl

/-- Both writes of a clearing, or the write of a grant, and there is no other. -/
theorem Action.written_of_length_le {now : Date} {writes : Nat} {action : Action}
    (all : (action.defaultsWrites now).length ≤ writes) (defaults : UserDefaults) :
    action.written now writes defaults =
      (action.defaultsWrites now).foldl (fun defaults write => write defaults) defaults := by
  rw [written, List.take_of_length_le all]

/-! ## What a launch finds done -/

/-- Where no transaction is open, a launch changes nothing. -/
theorem Stores.relaunched_eq_self {stores : Stores} (closed : stores.defaultRealm.staged = none) :
    stores.relaunched = stores := by
  obtain ⟨⟨persisted, staged⟩, defaults⟩ := stores
  obtain rfl : staged = none := closed
  rfl

variable {device : Device} {before after : Stores}

/-- A launch after an operation finds it done as recorded. -/
theorem Operation.Step.replayed {operation : Operation}
    (step : operation.Step device before after) :
    Follows (Recorded.Step device) before.relaunched operation.recorded after.relaunched := by
  obtain ⟨action, now, commits, calls⟩ := operation
  cases action with
  | mutate mutation =>
      have closed := (perform_cases device now commits step).1
      obtain ⟨contents, -, left, -⟩ := step.mutate_cases device rfl
      rw [Stores.relaunched_eq_self closed]
      cases commits with
      | true =>
          have closedAfter : after.relaunched = after := by rw [left]; rfl
          rw [closedAfter]
          cases mutation <;> exact ⟨rfl, step⟩
      | false =>
          -- The tables are those of the last commit, which `before` already shows.
          have rolledBack : after.relaunched =
              { before with defaults := mutation.defaultsAfter now before.defaults } := by
            obtain ⟨⟨persisted, staged⟩, defaults⟩ := before
            obtain rfl : staged = none := closed
            rw [left]
            rfl
          cases mutation with
          | clearAllData => exact ⟨rfl, congrArg some (Prod.ext rolledBack.symm rfl)⟩
          | _ => exact rolledBack
  | manuallyAdd points =>
      obtain rfl := step.manuallyAdd_eq device rfl
      exact ⟨rfl, rfl⟩
  | clearPoints =>
      obtain rfl := step.clearPoints_eq device rfl
      exact ⟨rfl, rfl⟩

/-- A launch after an interruption finds the writes made before it. -/
theorem Action.interrupted_replayed (device : Device) (stores : Stores) (now : Date) (writes : Nat)
    (action : Action) :
    Follows (Recorded.Step device) stores.relaunched (action.recorded now writes)
      { stores.relaunched with defaults := action.written now writes stores.defaults } := by
  cases action with
  | mutate mutation =>
      cases mutation with
      | clearAllData =>
          match writes with
          | 0 => exact rfl
          | 1 => exact rfl
          | more + 2 =>
              rw [written_of_length_le (Nat.le_add_left 2 more)]
              exact ⟨rfl, rfl⟩
      | _ =>
          rw [written_of_length_le (Nat.zero_le writes)]
          exact rfl
  | manuallyAdd points =>
      match writes with
      | 0 => exact rfl
      | more + 1 =>
          rw [written_of_length_le (Nat.le_add_left 1 more)]
          exact ⟨rfl, rfl⟩
  | clearPoints =>
      match writes with
      | 0 => exact rfl
      | 1 => exact rfl
      | more + 2 =>
          rw [written_of_length_le (Nat.le_add_left 2 more)]
          exact ⟨rfl, rfl⟩

theorem LifecycleEvent.Step.replayed {event : LifecycleEvent}
    (step : event.Step device before after) :
    Follows (Recorded.Step device) before.relaunched event.recorded after.relaunched := by
  cases event with
  | performed operation => exact Operation.Step.replayed step
  | relaunched =>
      obtain rfl := step
      exact rfl
  | interrupted action now writes =>
      obtain rfl := step
      exact action.interrupted_replayed device before now writes

/-- The stores as the next launch will find them follow each event as recorded. -/
theorem lifecycle_refines (device : Device) :
    Refines (LifecycleEvent.Step device) (Recorded.Step device) (fun _ => True) Stores.relaunched
      fun performed => performed.action.recorded where
  preserved _ _ := trivial
  follows _ step := step.replayed

/-- Whatever is performed, fails or is interrupted, a launch finds the stores of
a run that only commits: failed mutations are missing from it, a failed
`clearAllData` is a reset of the points in it, and an operation that was
interrupted is in it with the writes made before. -/
theorem relaunch_replays {start stores : Stores}
    {history : List (Performed Stores LifecycleEvent)}
    (runs : Runs (LifecycleEvent.Step device) start history stores) :
    Runs (Recorded.Step device) start.relaunched
      (seen Stores.relaunched (fun performed => performed.action.recorded) history)
      stores.relaunched :=
  (lifecycle_refines device).runs trivial runs

/-- A failed emergency and a grant, before a launch. -/
theorem relaunch_replays_grant :
    Runs (Recorded.Step (Device.gmt "")) Stores.empty
      [⟨Stores.empty, .defaultsOnly (.manuallyAdd 3) 5, manuallyAdd 5 3 Stores.empty⟩]
      ⟨⟨Tables.empty, none⟩, { presetPoints := some (.archive [.grant 5 3]) }⟩ := by
  let opened : Stores := ⟨⟨Tables.empty, some (Tables.empty.insertEmergency "Fire")⟩, {}⟩
  have failed : LifecycleEvent.Step (Device.gmt "") Stores.empty
      (.performed ⟨.mutate (.addEmergency (.unmanaged ⟨"Fire", []⟩)), 0, false,
        [succeeded, ⟨true, some .errorWritingData⟩]⟩) opened := rfl
  have granted : LifecycleEvent.Step (Device.gmt "") opened
      (.performed ⟨.manuallyAdd 3, 5, true, []⟩) (manuallyAdd 5 3 opened) := rfl
  have launched : LifecycleEvent.Step (Device.gmt "") (manuallyAdd 5 3 opened) .relaunched
      (manuallyAdd 5 3 opened).relaunched := rfl
  exact relaunch_replays (.step (.step (.step .initial failed) granted) launched)

/-! ## What a launch finds undone -/

/-- A mutation whose commit failed. -/
def Fails (event : LifecycleEvent) : Prop :=
  ∃ operation mutation, event = .performed operation ∧ operation.action = .mutate mutation ∧
    operation.commits = false

/-- An operation on the user defaults alone. -/
def DefaultsOnly (event : LifecycleEvent) : Prop :=
  ∃ operation, event = .performed operation ∧ ∀ mutation, operation.action ≠ .mutate mutation

/-- Every operation on the database raises. -/
def Stuck (device : Device) (stores : Stores) : Prop :=
  ∀ now commits, ∀ mutation : Mutation, mutation.perform device now commits stores = none

/-- Only an open transaction stops every mutation, as `clearAllData` needs no object. -/
theorem stuck_iff {stores : Stores} : Stuck device stores ↔ stores.defaultRealm.staged ≠ none := by
  constructor
  · intro stuck closed
    have performs : (Mutation.clearAllData.perform device 0 true stores).isSome :=
      (perform_isSome device 0 true).mpr ⟨closed, rfl⟩
    rw [stuck 0 true .clearAllData] at performs
    exact absurd performs (by simp)
  · intro opened now commits mutation
    by_contra performs
    have closed := (perform_isSome device now commits).mp (Option.isSome_iff_ne_none.mpr performs)
    exact opened closed.1

theorem Operation.Step.defaultRealm_eq {operation : Operation}
    (step : operation.Step device before after)
    (defaultsOnly : ∀ mutation, operation.action ≠ .mutate mutation) :
    after.defaultRealm = before.defaultRealm := by
  cases action : operation.action with
  | mutate mutation => exact absurd action (defaultsOnly mutation)
  | manuallyAdd points =>
      rw [step.manuallyAdd_eq device action]
      rfl
  | clearPoints =>
      rw [step.clearPoints_eq device action]
      rfl

theorem DefaultsOnly.keeps {event : LifecycleEvent} (idle : DefaultsOnly event)
    (step : event.Step device before after) : after.defaultRealm = before.defaultRealm := by
  obtain ⟨operation, rfl, defaultsOnly⟩ := idle
  exact Operation.Step.defaultRealm_eq step defaultsOnly

/-- A failed mutation leaves what it staged in an open transaction, over what
was committed before. -/
theorem Fails.leaves {event : LifecycleEvent} (fails : Fails event)
    (step : event.Step device before after) :
    after.defaultRealm = ⟨before.tables, some after.tables⟩ := by
  obtain ⟨operation, mutation, rfl, mutates, failed⟩ := fails
  obtain ⟨contents, -, rfl, -⟩ := Operation.Step.mutate_cases device step mutates
  rw [failed, tables_settled]
  rfl

/-- A step leaves a transaction open exactly if it is a failed mutation, or one
on the user defaults alone that found it open. -/
theorem LifecycleEvent.Step.staged_iff {event : LifecycleEvent}
    (step : event.Step device before after) (succeeds : ¬ Fails event) :
    after.defaultRealm.staged ≠ none ↔
      DefaultsOnly event ∧ before.defaultRealm.staged ≠ none := by
  cases event with
  | performed operation =>
      by_cases defaultsOnly : ∀ mutation, operation.action ≠ .mutate mutation
      · have idle : DefaultsOnly (.performed operation) := ⟨operation, rfl, defaultsOnly⟩
        rw [idle.keeps step]
        exact (and_iff_right idle).symm
      · simp only [not_forall, not_not] at defaultsOnly
        obtain ⟨mutation, mutates⟩ := defaultsOnly
        have commits : operation.commits = true := by
          by_contra fails
          exact succeeds ⟨operation, mutation, rfl, mutates, by simpa using fails⟩
        obtain ⟨contents, -, rfl, -⟩ := Operation.Step.mutate_cases device step mutates
        have closed : (settled before.tables (mutation.staged device before.tables contents)
            operation.commits).staged = none := by rw [commits]; rfl
        simp only [closed, ne_eq, not_true_eq_false, false_iff, not_and]
        rintro ⟨other, ⟨⟩, idle⟩
        exact absurd mutates (idle mutation)
  | relaunched =>
      obtain rfl := step
      refine ⟨fun opened => absurd rfl opened, ?_⟩
      rintro ⟨⟨operation, ⟨⟩, -⟩, -⟩
  | interrupted action now writes =>
      obtain rfl := step
      refine ⟨fun opened => absurd rfl opened, ?_⟩
      rintro ⟨⟨operation, ⟨⟩, -⟩, -⟩

/-- Every operation on the database raises exactly if a mutation has failed and
only user defaults were operated on since. A launch then undoes this mutation
and nothing else. -/
theorem lost_iff {start stores : Stores} {history : List (Performed Stores LifecycleEvent)}
    (runs : Runs (LifecycleEvent.Step device) start history stores)
    (closed : start.defaultRealm.staged = none) :
    (Stuck device stores ↔ ∃ earlier failed later, history = earlier ++ failed :: later ∧
      Fails failed.action ∧ ∀ performed ∈ later, DefaultsOnly performed.action) ∧
    (¬ Stuck device stores → stores.relaunched = stores) ∧
    ∀ earlier failed later, history = earlier ++ failed :: later → Fails failed.action →
      (∀ performed ∈ later, DefaultsOnly performed.action) →
        stores.tables = failed.after.tables ∧
          stores.relaunched = { stores with defaultRealm := ⟨failed.before.tables, none⟩ } := by
  refine ⟨?_, ?_, ?_⟩
  · rw [stuck_iff]
    have initial : ¬ start.defaultRealm.staged ≠ none := not_not.mpr closed
    refine @Runs.since_iff _ _ _ _ _ _ (fun stores => stores.defaultRealm.staged ≠ none) _ _
      runs initial ?_ ?_
    · intro performed step fails
      rw [fails.leaves step]
      exact Option.some_ne_none _
    · intro performed step succeeds
      exact step.staged_iff succeeds
  · rw [stuck_iff, not_not]
    exact Stores.relaunched_eq_self
  · rintro earlier failed later rfl fails idle
    have kept : stores.defaultRealm = failed.after.defaultRealm :=
      runs.observe_eq Stores.defaultRealm (fun _ step defaultsOnly => defaultsOnly.keeps step) idle
    have failing := runs.steps failed (by simp)
    rw [fails.leaves failing] at kept
    refine ⟨by rw [Stores.tables, kept]; rfl, ?_⟩
    rw [Stores.relaunched, kept]
    rfl

/-- After a failed emergency and a grant nothing but user defaults can be changed. -/
theorem lost_iff_grant :
    Stuck (Device.gmt "") ⟨⟨Tables.empty, some (Tables.empty.insertEmergency "Fire")⟩,
      { presetPoints := some (.archive [.grant 5 3]) }⟩ := by
  let opened : Stores := ⟨⟨Tables.empty, some (Tables.empty.insertEmergency "Fire")⟩, {}⟩
  have failed : LifecycleEvent.Step (Device.gmt "") Stores.empty
      (.performed ⟨.mutate (.addEmergency (.unmanaged ⟨"Fire", []⟩)), 0, false,
        [succeeded, ⟨true, some .errorWritingData⟩]⟩) opened := rfl
  have granted : LifecycleEvent.Step (Device.gmt "") opened
      (.performed ⟨.manuallyAdd 3, 5, true, []⟩) (manuallyAdd 5 3 opened) := rfl
  refine (lost_iff (.step (.step .initial failed) granted) rfl).1.mpr
    ⟨[], _, _, rfl, ⟨_, _, rfl, rfl, rfl⟩, ?_⟩
  intro performed member
  obtain rfl := List.mem_singleton.mp member
  exact ⟨_, rfl, by simp⟩

end ResponseTracker
