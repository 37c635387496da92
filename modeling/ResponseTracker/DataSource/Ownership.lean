import ResponseTracker.DataSource.Mutations
import ResponseTracker.DataSource.Overflow
import ResponseTracker.Std.Execution
import ResponseTracker.Std.Ownership

/-!
# Every response in one list

While the program stores only objects it has just built, each stored response
is in the list of exactly one emergency, once. The totals over all responses are
then the sums of the emergencies' own totals (`globalTotals_eq_sums`).
-/

namespace ResponseTracker

open DataManager Execution

/-- The objects handed to a mutation for storing were built for it. -/
def Mutation.Fresh : Mutation → Prop
  | .addEmergency (.managed _) => False
  | .addResponse (.managed _) _ => False
  | _ => True

/-- The objects handed to an operation for storing were built for it. -/
def Action.Fresh : Action → Prop
  | .mutate mutation => mutation.Fresh
  | _ => True

/-- A step that stores nothing but fresh objects. -/
def Operation.FreshStep (device : Device) (before : Stores) (operation : Operation)
    (after : Stores) : Prop :=
  operation.Step device before after ∧ operation.action.Fresh

namespace Tables

/-- The lists of the emergencies hold each stored response once. -/
def Owned (tables : Tables) : Prop :=
  Ownership.Owned EmergencyRow.responses tables.emergencies (tables.responses.map ResponseRow.key)

variable {tables : Tables}

/-- There is nothing to own at first. -/
theorem empty_owned : Tables.empty.Owned := Ownership.Owned.empty

/-- A new emergency owns nothing. -/
theorem Owned.insertEmergency (owned : tables.Owned) (type : String) :
    (tables.insertEmergency type).Owned := Ownership.Owned.add_holder owned rfl

/-- A new response is owned by the emergency it is appended to. -/
theorem Owned.appendNew {key : RowKey} (owned : tables.Owned)
    (present : key ∈ tables.emergencies.map EmergencyRow.key) (value : Response) :
    (tables.appendNew key value).Owned := by
  have appended := Ownership.Owned.append_item (updatedRow key id (· ++ [tables.nextKey]))
    tables.nextKey owned tables.emergencies_nodup present
    (fun row same => by simp [updatedRow, same])
    (fun row different => by simp [updatedRow, different])
  simpa [Owned, Tables.appendNew, updateEmergency, insertResponse] using appended

/-- Appending keeps the emergencies in place. -/
theorem appendNew_emergencies_key (key : RowKey) (value : Response) :
    (tables.appendNew key value).emergencies.map EmergencyRow.key =
      tables.emergencies.map EmergencyRow.key :=
  RowTable.map_key_map (updatedRow_key key _ _) tables.emergencies

/-- Appending in turn keeps the lists exclusive. -/
theorem Owned.appendAll {key : RowKey} (owned : tables.Owned)
    (present : key ∈ tables.emergencies.map EmergencyRow.key) (values : List Response) :
    (values.foldl (fun stored value => stored.appendNew key value) tables).Owned := by
  induction values generalizing tables with
  | nil => exact owned
  | cons value rest ih =>
      rw [List.foldl_cons]
      apply ih (owned.appendNew present value)
      rwa [appendNew_emergencies_key]

/-- Deleted responses are owned by none, and the others as before. -/
theorem Owned.deleteResponses (owned : tables.Owned) (dead : RowKey → Bool) :
    (tables.deleteResponses dead).Owned := by
  refine Ownership.Owned.delete_items dead owned (fun row => rfl) ?_
  rw [List.filter_map]
  exact (RowTable.moveLastOver_perm _ _).map _

/-- The responses in its list are deleted before an emergency is. -/
theorem Owned.removeEmergency {key : RowKey} {row : EmergencyRow} (owned : tables.Owned)
    (found : tables.emergency? key = some row) :
    ((tables.deleteResponses (row.responses.contains ·)).deleteEmergency key).Owned := by
  obtain ⟨stored, rfl⟩ := emergency?_eq_some found
  have still : unlinkedRow (row.responses.contains ·) row ∈
      (tables.deleteResponses (row.responses.contains ·)).emergencies := List.mem_map_of_mem stored
  have split := RowTable.perm_cons_moveLastOver (emergencies_nodup _) still
  exact Ownership.Owned.remove_holder (owned.deleteResponses _) split (by simp [unlinkedRow])

/-- Changing a response does not change its owner. -/
theorem Owned.updateResponse (owned : tables.Owned) (key : RowKey) (change : Response → Response) :
    (tables.updateResponse key change).Owned := by
  rw [Owned, Tables.updateResponse, RowTable.map_key_map (changedRow_key key change)]
  exact owned

/-- Renaming an emergency does not change what it owns. -/
theorem Owned.setType {key : RowKey} {type : String} {contents : Tables} (owned : tables.Owned)
    (set : tables.setType key type = some contents) : contents.Owned := by
  obtain ⟨row, -, rfl⟩ := setType_eq_some set
  apply Ownership.Owned.map_holders owned
  intro holder
  simp only [updatedRow]
  split <;> rfl

/-- The lists of all emergencies present the stored responses. -/
theorem Owned.responses (owned : tables.Owned) :
    (tables.emergencies.flatMap fun row => (tables.emergencyAt row).responses).Perm
      (tables.responses.map ResponseRow.value) := by
  have presented := Ownership.Owned.values
    (fun key => (tables.response? key).map ResponseRow.value) owned
  have values : (tables.responses.map ResponseRow.key).filterMap
      (fun key => (tables.response? key).map ResponseRow.value) =
        tables.responses.map ResponseRow.value := by
    rw [List.filterMap_map, ← List.filterMap_eq_map]
    refine List.filterMap_congr fun row stored => ?_
    simp [response?_of_mem stored]
  rw [values] at presented
  exact presented

end Tables

/-- Mutations given fresh objects keep every response in one list. -/
theorem Mutation.requested_owned {mutation : Mutation} {tables contents : Tables}
    (owned : tables.Owned) (fresh : mutation.Fresh)
    (asked : mutation.requested tables = some contents) : contents.Owned := by
  cases mutation with
  | addEmergency emergency =>
      cases emergency with
      | unmanaged value =>
          obtain rfl := Option.some.inj asked
          apply (owned.insertEmergency value.type).appendAll
          simp [Tables.insertEmergency]
      | managed key => exact absurd fresh id
  | addResponse response emergency =>
      obtain ⟨key, appended⟩ := requested_addResponse asked
      rcases Tables.append_eq_some appended with ⟨present, ⟨value, -, rfl, -⟩ | ⟨-, rfl, -⟩⟩
      · exact owned.appendNew
          (Tables.emergency?_isSome.mp (Option.isSome_iff_exists.mpr present)) value
      · exact absurd fresh id
  | removeResponse response emergency =>
      exact requested_removeResponse asked ▸ owned.deleteResponses _
  | updateResponse response newValue =>
      exact Tables.setResponse_eq_some asked ▸ owned.updateResponse _ _
  | updateEmergency emergency newName => exact owned.setType asked
  | removeEmergency emergency =>
      obtain ⟨row, found, rfl⟩ := requested_removeEmergency asked
      exact owned.removeEmergency found
  | clearAllData =>
      obtain rfl := Option.some.inj asked
      exact Ownership.Owned.empty

/-- Steps that store fresh objects keep every response in one list. -/
theorem Operation.FreshStep.owned {device : Device} {before after : Stores} {operation : Operation}
    (owned : before.tables.Owned) (step : operation.FreshStep device before after) :
    after.tables.Owned := by
  obtain ⟨step, fresh⟩ := step
  rcases step.tables_cases with unchanged | ⟨mutation, contents, mutates, -, asked, changed⟩
  · rwa [unchanged]
  · rw [mutates] at fresh
    exact changed ▸ Mutation.requested_owned owned fresh asked

variable {device : Device} {history : List (Performed Stores Operation)} {stores : Stores}

/-- Where only fresh objects are stored, every response keeps one owner. -/
theorem runs_owned (runs : Runs (Operation.FreshStep device) Stores.empty history stores) :
    stores.tables.Owned :=
  (runs.invariant (fun stores => stores.tables.Owned) Operation.FreshStep.owned
    Tables.empty_owned).1

/-- Counting over all responses is counting in every list. -/
theorem Tables.Owned.countSince {tables : Tables} (owned : tables.Owned) (bound : Date) :
    countSince bound (tables.responses.map ResponseRow.value) =
      (tables.emergencies.map fun row => countSince bound
        (tables.emergencyAt row).responses).sum := by
  rw [← countSince_perm bound owned.responses]
  exact Ownership.sum_flatMap (ResponseTracker.countSince bound) rfl (countSince_append bound) _ _

/-- The number of all responses is the sum of the lists' lengths. -/
theorem Tables.Owned.length {tables : Tables} (owned : tables.Owned) :
    ((tables.responses.map ResponseRow.value).length : Int) =
      (tables.emergencies.map fun row =>
        ((tables.emergencyAt row).responses.length : Int)).sum := by
  rw [← owned.responses.length_eq]
  exact Ownership.sum_flatMap (fun values => (values.length : Int)) rfl (by simp) _ _

/-- Every stored response is in the list of exactly one emergency, once. -/
def ExactlyOnce (tables : Tables) : Prop :=
  ∀ response ∈ tables.responses, ∃ emergency ∈ tables.emergencies,
    emergency.responses.count response.key = 1 ∧
      ∀ other ∈ tables.emergencies, response.key ∈ other.responses → other = emergency

/-- What the loop over the manual grants adds to the totals. -/
def grantedPoints (device : Device) (defaults : UserDefaults) (instant : Date) : Points :=
  countGrants (monthBound device defaults.lastPointReset instant)
    (previousMonthBound device defaults.lastPointReset instant) {} (getPresetPoints defaults)

/-- The totals without the manual grants are the sums of all emergencies' totals. -/
structure SumsAgree (device : Device) (stores : Stores) (instant : Date) : Prop where
  currentYear :
    (getPoints device stores instant).currentYear -
        (grantedPoints device stores.defaults instant).currentYear =
      (stores.tables.emergencies.map fun row => ((stores.tables.emergencyAt row).getPoints device
        stores.defaults instant instant).currentYear).sum
  currentMonth :
    (getPoints device stores instant).currentMonth -
        (grantedPoints device stores.defaults instant).currentMonth =
      (stores.tables.emergencies.map fun row => ((stores.tables.emergencyAt row).getPoints device
        stores.defaults instant instant).currentMonth).sum
  all :
    (getPoints device stores instant).all - (grantedPoints device stores.defaults instant).all =
      (stores.tables.emergencies.map fun row => ((stores.tables.emergencyAt row).getPoints device
        stores.defaults instant instant).all).sum

/-- The totals are the sums of all emergencies' totals and the grants, except that
of the previous month, which no emergency counts. -/
structure Points.AddsUp (device : Device) (stores : Stores) (instant : Date) (points : Points) :
    Prop where
  currentYear : points.currentYear = (grantedPoints device stores.defaults instant).currentYear +
    (stores.tables.emergencies.map fun row => ((stores.tables.emergencyAt row).getPoints device
      stores.defaults instant instant).currentYear).sum
  currentMonth : points.currentMonth = (grantedPoints device stores.defaults instant).currentMonth +
    (stores.tables.emergencies.map fun row => ((stores.tables.emergencyAt row).getPoints device
      stores.defaults instant instant).currentMonth).sum
  all : points.all = (grantedPoints device stores.defaults instant).all +
    (stores.tables.emergencies.map fun row => ((stores.tables.emergencyAt row).getPoints device
      stores.defaults instant instant).all).sum

/-- Wherever the totals can be loaded, they are the unbounded ones. -/
theorem SumsAgree.loaded {device : Device} {stores : Stores} {instant : Date} {points : Points}
    (sums : SumsAgree device stores instant)
    (loaded : getPoints? device stores instant = some points) :
    points.AddsUp device stores instant := by
  obtain ⟨-, rfl⟩ := getPoints?_eq_some_iff.mp loaded
  exact ⟨sub_eq_iff_eq_add'.mp sums.currentYear, sub_eq_iff_eq_add'.mp sums.currentMonth,
    sub_eq_iff_eq_add'.mp sums.all⟩

/-- A response that has one owner is in its list once. -/
theorem Tables.Owned.exactlyOnce {tables : Tables} (owned : tables.Owned) : ExactlyOnce tables :=
  fun _ stored => Ownership.Owned.exactly_once owned tables.responses_nodup
    (List.mem_map_of_mem stored)

/-- Counting in every list is counting all responses, for each of the three totals. -/
theorem Tables.Owned.sumsAgree (owned : stores.tables.Owned) (instant : Date) :
    SumsAgree device stores instant := by
  refine ⟨?_, ?_, ?_⟩
  · exact (add_sub_cancel_left _ _).trans (owned.countSince _)
  · exact (add_sub_cancel_left _ _).trans (owned.countSince _)
  · exact (add_sub_cancel_left _ _).trans owned.length

/-- From the empty store, through any operations that store fresh objects and
whatever becomes of their commits, every response stays in one list, and the
totals at every instant are the sums of all emergencies' totals and the grants.
The sums are unbounded here; the program traps where they leave the range of
`Int`. -/
theorem globalTotals_eq_sums
    (runs : Runs (Operation.FreshStep device) Stores.empty history stores) (instant : Date) :
    ExactlyOnce stores.tables ∧ SumsAgree device stores instant :=
  ⟨(runs_owned runs).exactlyOnce, (runs_owned runs).sumsAgree instant⟩

/-- Two emergencies with responses, and a grant. -/
theorem globalTotals_eq_sums_fire :
    let device := Device.gmt ""
    let both := (Tables.empty.insertEmergency "Fire").insertEmergency "Flood"
    let tables := (both.appendNew 0 ⟨"7", "", seconds 86400⟩).appendNew 1 ⟨"8", "", seconds 86401⟩
    let stores : Stores := ⟨⟨tables, none⟩, { presetPoints := some (.archive [.grant 5 3]) }⟩
    ExactlyOnce stores.tables ∧ SumsAgree device stores (seconds 172800) := by
  intro device both tables stores
  have first : Operation.FreshStep device Stores.empty
      ⟨.mutate (.addEmergency (.unmanaged ⟨"Fire", []⟩)), 0, true, [succeeded]⟩
      ⟨⟨Tables.empty.insertEmergency "Fire", none⟩, {}⟩ := ⟨rfl, trivial⟩
  have second : Operation.FreshStep device ⟨⟨Tables.empty.insertEmergency "Fire", none⟩, {}⟩
      ⟨.mutate (.addEmergency (.unmanaged ⟨"Flood", []⟩)), 1, true, [succeeded]⟩
      ⟨⟨both, none⟩, {}⟩ := ⟨rfl, trivial⟩
  have third : Operation.FreshStep device ⟨⟨both, none⟩, {}⟩
      ⟨.mutate (.addResponse (.unmanaged ⟨"7", "", seconds 86400⟩) 0), 2, true, [succeeded]⟩
      ⟨⟨both.appendNew 0 ⟨"7", "", seconds 86400⟩, none⟩, {}⟩ := ⟨rfl, trivial⟩
  have fourth : Operation.FreshStep device
      ⟨⟨both.appendNew 0 ⟨"7", "", seconds 86400⟩, none⟩, {}⟩
      ⟨.mutate (.addResponse (.unmanaged ⟨"8", "", seconds 86401⟩) 1), 3, true, [succeeded]⟩
      ⟨⟨tables, none⟩, {}⟩ := ⟨rfl, trivial⟩
  have granted : Operation.FreshStep device ⟨⟨tables, none⟩, {}⟩
      ⟨.manuallyAdd 3, 5, true, []⟩ stores := ⟨rfl, trivial⟩
  exact globalTotals_eq_sums
    (.step (.step (.step (.step (.step .initial first) second) third) fourth) granted)
    (seconds 172800)

/-- The totals of such a run add up whenever they can be loaded. -/
theorem loaded_addsUp (runs : Runs (Operation.FreshStep device) Stores.empty history stores)
    {instant : Date} {points : Points} (loaded : getPoints? device stores instant = some points) :
    points.AddsUp device stores instant :=
  ((runs_owned runs).sumsAgree instant).loaded loaded

end ResponseTracker
