import ResponseTracker.DataSource.DataManager
import ResponseTracker.Realm.Accessors

/-!
# What the mutations do

`Mutation.requested` states each mutation as one change of the tables, and
`Mutation.rejected` when the change is refused. `perform_closed` relates every
operation of `DataManager` to them: what a success or a failure of its commit
leaves in the stores, and which callbacks it invokes.
-/

namespace ResponseTracker

open DataManager

/-- A stored emergency has the given type. -/
def Tables.taken (device : Device) (tables : Tables) (type : String) : Bool :=
  tables.emergencies.any fun emergency => device.sameText emergency.type type

namespace Mutation

/-- The tables a mutation asks for, or `none` when it is given an object that is
not stored any more. -/
def requested (tables : Tables) : Mutation → Option Tables
  | .addEmergency emergency => tables.addEmergency emergency
  | .addResponse response emergency => (tables.append emergency response).map Prod.fst
  | .removeResponse response emergency => do
      let _ ← tables.emergency? emergency
      let _ ← tables.response? response
      some (tables.deleteResponses (· == response))
  | .updateResponse response newValue => tables.setResponse response fun _ => newValue
  | .updateEmergency emergency newName => tables.setType emergency newName
  | .removeEmergency emergency => do
      let row ← tables.emergency? emergency
      some ((tables.deleteResponses (row.responses.contains ·)).deleteEmergency emergency)
  | .clearAllData => some tables.deleteAll

/-- The mutation adds an emergency of a type that is already stored. -/
def rejected (device : Device) (tables : Tables) : Mutation → Bool
  | .addEmergency emergency => (tables.typeOf emergency).any (tables.taken device)
  | _ => false

/-- The objects given to a mutation are stored or new. -/
def live (tables : Tables) (mutation : Mutation) : Bool := (mutation.requested tables).isSome

/-- The user defaults after a mutation, whatever becomes of its commit. -/
def defaultsAfter (now : Date) (defaults : UserDefaults) : Mutation → UserDefaults
  | .clearAllData => setLastClearPoints now (clearPresetPoints defaults)
  | _ => defaults

/-- The callback of a mutation's `catch` branch. -/
def failure : Mutation → Callback
  | .addEmergency _ => ⟨true, some .errorWritingData⟩
  | .addResponse _ _ => ⟨false, some .errorWritingData⟩
  | .removeResponse _ _ => ⟨false, some .errorClearData⟩
  | .updateResponse _ _ => ⟨false, some .errorWritingData⟩
  | .updateEmergency _ _ => ⟨false, some .errorChangingName⟩
  | .removeEmergency _ => ⟨false, some .errorClearData⟩
  | .clearAllData => ⟨false, some .errorClearData⟩

/-- The callback invoked while the transaction is open or, by `clearAllData`,
after it was committed. -/
def report (rejected : Bool) : Callback :=
  if rejected then ⟨false, some .alreadyExists⟩ else succeeded

/-- The callbacks of a mutation in the order of their invocation. -/
def calls (rejected commits : Bool) (mutation : Mutation) : List Callback :=
  match mutation, commits with
  | _, true => [report rejected]
  | .clearAllData, false => [failure .clearAllData]
  | mutation, false => [report rejected, mutation.failure]

/-- The database after a transaction that staged the given tables. -/
def settled (tables contents : Tables) (commits : Bool) : Realm :=
  if commits then ⟨contents, none⟩ else ⟨tables, some contents⟩

/-- The tables a mutation stages. -/
def staged (device : Device) (tables contents : Tables) (mutation : Mutation) : Tables :=
  if mutation.rejected device tables then tables else contents

/-- The stores and the callbacks a mutation of a closed database comes to. -/
def outcome (device : Device) (now : Date) (commits : Bool) (tables : Tables)
    (defaults : UserDefaults) (mutation : Mutation) : Option (Stores × List Callback) :=
  (mutation.requested tables).map fun contents =>
    (⟨settled tables (mutation.staged device tables contents) commits,
        mutation.defaultsAfter now defaults⟩,
      mutation.calls (mutation.rejected device tables) commits)

section Requested

variable {tables contents : Tables}

/-- Adding a response asks for appending it. -/
theorem requested_addResponse {response : ResponseRef} {emergency : RowKey}
    (asked : (addResponse response emergency).requested tables = some contents) :
    ∃ key, tables.append emergency response = some (contents, key) := by
  obtain ⟨⟨stored, key⟩, appended, rfl⟩ := Option.map_eq_some_iff.mp asked
  exact ⟨key, appended⟩

/-- Removing a response asks for its deletion, whatever list is named. -/
theorem requested_removeResponse {response emergency : RowKey}
    (asked : (removeResponse response emergency).requested tables = some contents) :
    contents = tables.deleteResponses (· == response) := by
  simp only [requested, Option.bind_eq_bind, Option.bind_eq_some_iff] at asked
  obtain ⟨-, -, -, -, same⟩ := asked
  exact (Option.some.inj same).symm

/-- Only a stored response can be removed. -/
theorem stored_of_removeResponse {response emergency : RowKey}
    (asked : (removeResponse response emergency).requested tables = some contents) :
    response ∈ tables.responses.map ResponseRow.key := by
  simp only [requested, Option.bind_eq_bind, Option.bind_eq_some_iff] at asked
  obtain ⟨-, -, row, found, -⟩ := asked
  exact Tables.response?_isSome.mp (Option.isSome_iff_exists.mpr ⟨row, found⟩)

/-- Removing an emergency asks for the deletion of its responses, then its own. -/
theorem requested_removeEmergency {emergency : RowKey}
    (asked : (removeEmergency emergency).requested tables = some contents) :
    ∃ row, tables.emergency? emergency = some row ∧
      contents = (tables.deleteResponses (row.responses.contains ·)).deleteEmergency emergency := by
  simp only [requested, Option.bind_eq_bind, Option.bind_eq_some_iff] at asked
  obtain ⟨row, found, same⟩ := asked
  exact ⟨row, found, (Option.some.inj same).symm⟩

end Requested

end Mutation

open Mutation

variable (device : Device) (now : Date) (commits : Bool) (tables : Tables) (defaults : UserDefaults)

/-- Only adding an emergency is ever rejected. -/
theorem addEmergency_of_rejected {device : Device} {tables : Tables} {mutation : Mutation}
    (rejected : mutation.rejected device tables = true) :
    ∃ emergency, mutation = .addEmergency emergency := by
  cases mutation with
  | addEmergency emergency => exact ⟨emergency, rfl⟩
  | _ => exact absurd rejected (by simp [Mutation.rejected])

/-- The order of the list does not matter for finding a type in it. -/
theorem alreadyExists_eq_taken (newType : String) :
    alreadyExists device defaults tables now newType = tables.taken device newType := by
  have sorted : (getEmergencyTypes device defaults tables now).Perm tables.emergencies :=
    List.perm_insertionSort _ _
  rw [alreadyExists, (sorted.filter _).length_eq, Tables.taken, Bool.eq_iff_iff, List.any_eq_true]
  simp [List.filter_eq_nil_iff]

/-- An operation whose block stages what was requested and reports it. -/
theorem performWrite_closed (mutation : Mutation) (ordinary : mutation ≠ .clearAllData)
    {block : Tables → Option (Tables × List Callback × Except SwiftError PUnit)}
    (returns : block tables = (mutation.requested tables).map fun contents =>
      (mutation.staged device tables contents, [report (mutation.rejected device tables)],
        .ok ⟨⟩)) :
    performWrite commits block mutation.failure ⟨⟨tables, none⟩, defaults⟩ =
      mutation.outcome device now commits tables defaults := by
  have unchanged : mutation.defaultsAfter now defaults = defaults := by
    cases mutation <;> first | rfl | exact absurd rfl ordinary
  cases asked : mutation.requested tables with
  | none =>
      rw [asked] at returns
      simp [performWrite, Transactional.write_raises returns, outcome, asked]
  | some contents =>
      rw [asked] at returns
      cases commits with
      | true =>
          simp [performWrite, Transactional.write_commits returns, outcome, asked, settled, calls,
            unchanged]
      | false =>
          have both : mutation.calls (mutation.rejected device tables) false =
              [report (mutation.rejected device tables), mutation.failure] := by
            cases mutation <;> first | rfl | exact absurd rfl ordinary
          simp [performWrite, Transactional.write_commitFails returns, outcome, asked, settled,
            both, unchanged]

/-- Within an open transaction no operation begins. -/
theorem perform_open (persisted contents : Tables) (mutation : Mutation) :
    mutation.perform device now commits ⟨⟨persisted, some contents⟩, defaults⟩ = none := by
  cases mutation <;> rfl

section Operations

variable {tables}

theorem addEmergency_closed (added : EmergencyRef) :
    addEmergency device now added commits ⟨⟨tables, none⟩, defaults⟩ =
      (Mutation.addEmergency added).outcome device now commits tables defaults := by
  refine performWrite_closed device now commits tables defaults (.addEmergency added) (by simp) ?_
  cases type : tables.typeOf added with
  | none =>
      have missing := Tables.addEmergency_eq_none_iff.mpr type
      simp [missing, requested]
  | some newType =>
      have stored : tables.addEmergency added ≠ none := by
        simp [Tables.addEmergency_eq_none_iff, type]
      obtain ⟨contents, stored⟩ := Option.ne_none_iff_exists'.mp stored
      by_cases taken : tables.taken device newType = true
      · simp [alreadyExists_eq_taken, type, taken, stored, requested, staged, rejected, report]
      · simp [alreadyExists_eq_taken, type, taken, stored, requested, staged, rejected, report]

theorem addResponse_closed (response : ResponseRef) (emergency : RowKey) :
    addResponse response emergency commits ⟨⟨tables, none⟩, defaults⟩ =
      (Mutation.addResponse response emergency).outcome device now commits tables defaults := by
  refine performWrite_closed device now commits tables defaults (.addResponse response emergency)
    (by simp) ?_
  cases appended : tables.append emergency response with
  | none => simp [appended, requested]
  | some stored =>
      simp [appended, requested, staged, rejected, report, Tables.append_addResponse appended]

theorem removeResponse_closed (response emergency : RowKey) :
    removeResponse response emergency commits ⟨⟨tables, none⟩, defaults⟩ =
      (Mutation.removeResponse response emergency).outcome device now commits tables defaults := by
  refine performWrite_closed device now commits tables defaults (.removeResponse response emergency)
    (by simp) ?_
  cases owner : tables.emergency? emergency with
  | none => simp [Tables.removeFrom, requested, owner]
  | some row =>
      cases found : tables.response? response with
      | none => simp [Tables.removeFrom, requested, owner, found]
      | some value =>
          have deleted := Tables.removeFrom_delete
            (Option.isSome_iff_exists.mpr ⟨row, owner⟩)
            (Option.isSome_iff_exists.mpr ⟨value, found⟩)
          simp only [Option.bind_eq_bind, ← Option.bind_assoc, deleted]
          simp [requested, owner, found, staged, rejected, report]

theorem updateResponse_closed (response : RowKey) (newValue : Response) :
    updateResponse response newValue commits ⟨⟨tables, none⟩, defaults⟩ =
      (Mutation.updateResponse response newValue).outcome device now commits tables defaults := by
  refine performWrite_closed device now commits tables defaults (.updateResponse response newValue)
    (by simp) ?_
  -- The three assignments replace the value as a whole.
  simp only [Option.bind_eq_bind, ← Option.bind_assoc, Tables.setResponse_setResponse]
  cases found : tables.response? response with
  | none => simp [Tables.setResponse, requested, found]
  | some row =>
      simp [Tables.setResponse, requested, found, staged, rejected, report, Function.comp_def]

theorem updateEmergency_closed (emergency : RowKey) (newName : String) :
    updateEmergency emergency newName commits ⟨⟨tables, none⟩, defaults⟩ =
      (Mutation.updateEmergency emergency newName).outcome device now commits tables defaults := by
  refine performWrite_closed device now commits tables defaults (.updateEmergency emergency newName)
    (by simp) ?_
  cases found : tables.emergency? emergency with
  | none => simp [Tables.setType, requested, found]
  | some row => simp [Tables.setType, requested, found, staged, rejected, report]

theorem removeEmergency_closed (emergency : RowKey) :
    removeEmergency emergency commits ⟨⟨tables, none⟩, defaults⟩ =
      (Mutation.removeEmergency emergency).outcome device now commits tables defaults := by
  refine performWrite_closed device now commits tables defaults (.removeEmergency emergency)
    (by simp) ?_
  cases owner : tables.emergency? emergency with
  | none => simp [Tables.deleteListOf, requested, owner]
  | some row =>
      simp only [Option.bind_eq_bind, ← Option.bind_assoc, Tables.deleteListOf_deleteObject owner]
      simp [requested, owner, staged, rejected, report]

theorem clearAllData_closed :
    clearAllData now commits ⟨⟨tables, none⟩, defaults⟩ =
      Mutation.clearAllData.outcome device now commits tables defaults := by
  cases commits <;> rfl

end Operations

/-- Every operation of the data manager on a closed database. -/
theorem perform_closed (mutation : Mutation) :
    mutation.perform device now commits ⟨⟨tables, none⟩, defaults⟩ =
      mutation.outcome device now commits tables defaults := by
  cases mutation with
  | addEmergency emergency => exact addEmergency_closed device now commits defaults emergency
  | addResponse response emergency =>
      exact addResponse_closed device now commits defaults response emergency
  | removeResponse response emergency =>
      exact removeResponse_closed device now commits defaults response emergency
  | updateResponse response newValue =>
      exact updateResponse_closed device now commits defaults response newValue
  | updateEmergency emergency newName =>
      exact updateEmergency_closed device now commits defaults emergency newName
  | removeEmergency emergency => exact removeEmergency_closed device now commits defaults emergency
  | clearAllData => exact clearAllData_closed device now commits defaults

/-- What a performed mutation has done. -/
theorem perform_cases {mutation : Mutation} {before after : Stores} {calls : List Callback}
    (performed : mutation.perform device now commits before = some (after, calls)) :
    before.defaultRealm.staged = none ∧ ∃ contents,
      mutation.requested before.tables = some contents ∧
      after = ⟨settled before.tables (mutation.staged device before.tables contents) commits,
        mutation.defaultsAfter now before.defaults⟩ ∧
      calls = mutation.calls (mutation.rejected device before.tables) commits := by
  obtain ⟨⟨persisted, opened⟩, defaults⟩ := before
  cases opened with
  | some contents => exact absurd performed (by simp [perform_open])
  | none =>
      rw [perform_closed, outcome, Option.map_eq_some_iff] at performed
      obtain ⟨contents, asked, same⟩ := performed
      obtain ⟨rfl, rfl⟩ := Prod.mk.inj same
      exact ⟨rfl, contents, asked, rfl, rfl⟩

/-- A mutation is performed unless the store raises. -/
theorem perform_isSome {mutation : Mutation} {before : Stores} :
    (mutation.perform device now commits before).isSome ↔
      before.defaultRealm.staged = none ∧ mutation.live before.tables = true := by
  obtain ⟨⟨persisted, opened⟩, defaults⟩ := before
  cases opened with
  | some contents => simp [perform_open]
  | none => simp [perform_closed, outcome, live]

/-- Whether or not its commit succeeds, the staged tables are visible afterwards. -/
@[simp] theorem tables_settled (contents : Tables) :
    (⟨settled tables contents commits, defaults⟩ : Stores).tables = contents := by
  cases commits <;> rfl

section Performed

variable {now commits} {before after : Stores} {calls : List Callback}

/-- What a performed removal has done. Only `addEmergency` reads the device, so
any device will do to tell. -/
theorem removeResponse_eq_some {response emergency : RowKey}
    (removed : removeResponse response emergency commits before = some (after, calls)) :
    after = ⟨settled before.tables (before.tables.deleteResponses (· == response)) commits,
        before.defaults⟩ ∧
      calls = (Mutation.removeResponse response emergency).calls false commits := by
  have performed : (Mutation.removeResponse response emergency).perform (Device.gmt "") 0 commits
      before = some (after, calls) := removed
  obtain ⟨-, contents, asked, left, called⟩ := perform_cases (Device.gmt "") 0 commits performed
  obtain rfl := requested_removeResponse asked
  exact ⟨left, called⟩

/-- The stores that an update of a response leaves. -/
theorem updateResponse_eq_some {response : RowKey} {newValue : Response}
    (updated : updateResponse response newValue commits before = some (after, calls)) :
    after =
      ⟨settled before.tables (before.tables.updateResponse response fun _ => newValue) commits,
        before.defaults⟩ := by
  have performed : (Mutation.updateResponse response newValue).perform (Device.gmt "") 0 commits
      before = some (after, calls) := updated
  obtain ⟨-, contents, asked, left, -⟩ := perform_cases (Device.gmt "") 0 commits performed
  obtain rfl := Tables.setResponse_eq_some asked
  exact left

/-- The stores that clearing all data leaves. -/
theorem clearAllData_eq_some
    (cleared : clearAllData now commits before = some (after, calls)) :
    after = ⟨settled before.tables before.tables.deleteAll commits,
      setLastClearPoints now (clearPresetPoints before.defaults)⟩ := by
  have performed : Mutation.clearAllData.perform (Device.gmt "") now commits before =
      some (after, calls) := cleared
  obtain ⟨-, contents, asked, left, -⟩ := perform_cases (Device.gmt "") now commits performed
  obtain rfl := Option.some.inj asked
  exact left

end Performed

/-! ## Operations as steps -/

/-- One operation with the clock it reads, the outcome of its commit and the
callbacks it invokes. -/
structure Operation where
  action : Action
  now : Date
  commits : Bool
  calls : List Callback

/-- An operation leads from one state of the stores to the next. -/
def Operation.Step (device : Device) (before : Stores) (operation : Operation)
    (after : Stores) : Prop :=
  operation.action.perform device operation.now operation.commits before =
    some (after, operation.calls)

/-- What a step that performs a mutation has done. -/
theorem Operation.Step.mutate_cases {before after : Stores} {operation : Operation}
    {mutation : Mutation}
    (step : operation.Step device before after) (mutates : operation.action = .mutate mutation) :
    ∃ contents, mutation.requested before.tables = some contents ∧
      after = ⟨settled before.tables (mutation.staged device before.tables contents)
          operation.commits,
        mutation.defaultsAfter operation.now before.defaults⟩ ∧
      operation.calls =
        mutation.calls (mutation.rejected device before.tables) operation.commits := by
  rw [Operation.Step, mutates] at step
  exact (perform_cases device operation.now operation.commits step).2

/-- The stores that adding points leaves. -/
theorem Operation.Step.manuallyAdd_eq {before after : Stores} {operation : Operation} {points : Int}
    (step : operation.Step device before after) (adds : operation.action = .manuallyAdd points) :
    after = manuallyAdd operation.now points before := by
  rw [Operation.Step, adds] at step
  exact (Prod.mk.inj (Option.some.inj step)).1.symm

/-- The stores that a reset leaves. -/
theorem Operation.Step.clearPoints_eq {before after : Stores} {operation : Operation}
    (step : operation.Step device before after) (clears : operation.action = .clearPoints) :
    after = clearPoints operation.now before := by
  rw [Operation.Step, clears] at step
  exact (Prod.mk.inj (Option.some.inj step)).1.symm

/-- An operation leaves the visible tables alone or makes the change of a mutation. -/
theorem Operation.Step.tables_cases {before after : Stores} {operation : Operation}
    (step : operation.Step device before after) :
    after.tables = before.tables ∨
      ∃ mutation contents, operation.action = .mutate mutation ∧
        mutation.rejected device before.tables = false ∧
        mutation.requested before.tables = some contents ∧ after.tables = contents := by
  cases action : operation.action with
  | mutate mutation =>
      obtain ⟨contents, asked, rfl, -⟩ := step.mutate_cases device action
      cases rejected : mutation.rejected device before.tables with
      | true => exact .inl (by rw [tables_settled, staged, if_pos rejected])
      | false =>
          refine .inr ⟨mutation, contents, rfl, rejected, asked, ?_⟩
          rw [tables_settled, staged, if_neg (by simp [rejected])]
  | manuallyAdd points =>
      rw [step.manuallyAdd_eq device action]
      exact .inl rfl
  | clearPoints =>
      rw [step.clearPoints_eq device action]
      exact .inl rfl

/-- The user defaults after an operation, whatever becomes of its commit. -/
def Operation.defaultsAfter (defaults : UserDefaults) (operation : Operation) : UserDefaults :=
  match operation.action with
  | .mutate mutation => mutation.defaultsAfter operation.now defaults
  | .manuallyAdd points =>
      { defaults with presetPoints := some (.archive
        (getPresetPoints defaults ++ [PresetEntry.grant operation.now points])) }
  | .clearPoints => setLastClearPoints operation.now (clearPresetPoints defaults)

/-- What an operation leaves of the user defaults does not depend on its commit. -/
theorem Operation.Step.defaults_eq {before after : Stores} {operation : Operation}
    (step : operation.Step device before after) :
    after.defaults = operation.defaultsAfter before.defaults := by
  cases action : operation.action with
  | mutate mutation =>
      obtain ⟨contents, -, rfl, -⟩ := step.mutate_cases device action
      rw [Operation.defaultsAfter, action]
  | manuallyAdd points =>
      rw [step.manuallyAdd_eq device action, Operation.defaultsAfter, action]
      rfl
  | clearPoints =>
      rw [step.clearPoints_eq device action, Operation.defaultsAfter, action]
      rfl

end ResponseTracker
