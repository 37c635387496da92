import ResponseTracker.DataSource.Ownership

/-!
# An operation on one emergency leaves the others alone

A deletion takes responses out of every list, so that it touches one emergency
only is due to every response being in one list. `operation_leavesOthers` draws
this from `runs_owned` for each of the operations on an emergency.
-/

namespace ResponseTracker

open DataManager Execution

/-- The mutation is one on the given emergency or on a response in its list. -/
def Mutation.On (tables : Tables) (emergency : RowKey) : Mutation → Prop
  | .addResponse _ target => target = emergency
  | .removeResponse response target =>
      target = emergency ∧ ∃ row, tables.emergency? emergency = some row ∧ response ∈ row.responses
  | .updateResponse response _ =>
      ∃ row, tables.emergency? emergency = some row ∧ response ∈ row.responses
  | .updateEmergency target _ => target = emergency
  | .removeEmergency target => target = emergency
  | _ => False

/-- Every other emergency keeps its row and presents the same responses. -/
def LeavesOthers (emergency : RowKey) (before after : Tables) : Prop :=
  ∀ row ∈ before.emergencies, row.key ≠ emergency →
    row ∈ after.emergencies ∧ after.emergencyAt row = before.emergencyAt row

/-- The emergency's list is left without one response, the rest as they were. -/
def KeepsOrder (emergency response : RowKey) (before after : Tables) : Prop :=
  ∀ row, before.emergency? emergency = some row →
    ∃ left, after.emergency? emergency = some left ∧ left.type = row.type ∧
      left.responses = row.responses.erase response ∧
      ∀ key ∈ left.responses, after.response? key = before.response? key

namespace Tables

variable {tables : Tables}

/-- An emergency presents the same where its links lead to the same rows. -/
theorem emergencyAt_congr {others : Tables} {row : EmergencyRow}
    (same : ∀ key ∈ row.responses, others.response? key = tables.response? key) :
    others.emergencyAt row = tables.emergencyAt row := by
  unfold emergencyAt
  congr 1
  refine List.filterMap_congr fun key linked => ?_
  rw [same key linked]

/-- A stored emergency is the one its key leads to. -/
theorem emergency?_of_mem {row : EmergencyRow} (stored : row ∈ tables.emergencies) :
    tables.emergency? row.key = some row := by
  obtain ⟨found, leads⟩ := Option.isSome_iff_exists.mp
    (emergency?_isSome.mpr (List.mem_map_of_mem stored))
  obtain ⟨member, sameKey⟩ := emergency?_eq_some leads
  rw [leads, List.inj_on_of_nodup_map tables.emergencies_nodup member stored sameKey]

/-! ## Responses that an operation does not touch -/

/-- A new response hides no other. -/
theorem insertResponse_response? {key : RowKey} (value : Response)
    (stored : key ∈ tables.responses.map ResponseRow.key) :
    (tables.insertResponse value).response? key = tables.response? key := by
  refine response?_congr fun row sameKey => ?_
  have old : row ≠ ⟨tables.nextKey, value⟩ := by
    rintro rfl
    obtain ⟨other, member, same⟩ := List.mem_map.mp stored
    have below := tables.responses_allocated other member
    rw [same, ← sameKey] at below
    exact Nat.lt_irrefl _ below
  simp [insertResponse, old]

/-- A response that is not deleted is found as it was. -/
theorem deleteResponses_response? {dead : RowKey → Bool} {key : RowKey}
    (alive : dead key = false) :
    (tables.deleteResponses dead).response? key = tables.response? key := by
  refine response?_congr fun row sameKey => ?_
  rw [deleteResponses, RowTable.mem_moveLastOver, sameKey]
  exact and_iff_left alive

/-- A response that is not changed is found as it was. -/
theorem updateResponse_response? {key other : RowKey} (change : Response → Response)
    (different : other ≠ key) :
    (tables.updateResponse key change).response? other = tables.response? other := by
  refine response?_congr fun row sameKey => ?_
  constructor
  · intro changed
    obtain ⟨old, member, rfl⟩ := List.mem_map.mp changed
    rw [changedRow_key] at sameKey
    rwa [changedRow, if_neg (by simpa [sameKey] using different)]
  · intro member
    refine List.mem_map.mpr ⟨row, member, ?_⟩
    rw [changedRow, if_neg (by simpa [sameKey] using different)]

/-- A row with another key is as it was. -/
theorem updatedRow_of_ne {key : RowKey} {type : String → String}
    {links : List RowKey → List RowKey} {row : EmergencyRow} (different : row.key ≠ key) :
    updatedRow key type links row = row := by
  rw [updatedRow, if_neg (by simpa using different)]

/-! ## Responses of other emergencies -/

/-- Links lead to stored responses. -/
theorem link_stored {row : EmergencyRow} {key : RowKey} (member : row ∈ tables.emergencies)
    (linked : key ∈ row.responses) :
    ∃ response ∈ tables.responses, response.key = key :=
  List.mem_map.mp (tables.links_stored row member key linked)

/-- A response in one list is in no other. -/
theorem Owned.notMem_of_ne {row other : EmergencyRow} {key : RowKey} (owned : tables.Owned)
    (member : row ∈ tables.emergencies) (otherMember : other ∈ tables.emergencies)
    (different : other.key ≠ row.key) (linked : key ∈ row.responses) : key ∉ other.responses := by
  intro otherLinked
  obtain ⟨response, stored, rfl⟩ := link_stored member linked
  obtain ⟨owner, -, -, unique⟩ := owned.exactlyOnce response stored
  exact different (congrArg EmergencyRow.key
    ((unique other otherMember otherLinked).trans (unique row member linked).symm))

/-- A list names each response once. -/
theorem Owned.nodup_links {row : EmergencyRow} (owned : tables.Owned)
    (member : row ∈ tables.emergencies) : row.responses.Nodup := by
  rw [List.nodup_iff_count_le_one]
  intro key
  by_cases linked : key ∈ row.responses
  · obtain ⟨response, stored, rfl⟩ := link_stored member linked
    obtain ⟨owner, -, once, unique⟩ := owned.exactlyOnce response stored
    rw [unique row member linked, once]
  · rw [List.count_eq_zero_of_not_mem linked]
    exact Nat.zero_le 1

/-! ## What the operations leave -/

/-- Changing one emergency's row leaves the others alone. -/
theorem updateEmergency_leavesOthers (key : RowKey) (type : String → String)
    (links : List RowKey → List RowKey) (stored) :
    LeavesOthers key tables (tables.updateEmergency key type links stored) :=
  fun row member different => ⟨List.mem_map.mpr ⟨row, member, updatedRow_of_ne different⟩, rfl⟩

/-- A new response is linked by one emergency only. -/
theorem appendNew_leavesOthers (key : RowKey) (value : Response) :
    LeavesOthers key tables (tables.appendNew key value) := by
  intro row member different
  refine ⟨List.mem_map.mpr ⟨row, member, updatedRow_of_ne different⟩, ?_⟩
  refine emergencyAt_congr fun link linked => ?_
  exact insertResponse_response? value (tables.links_stored row member link linked)

/-- Deleting responses of one emergency leaves the others alone. -/
theorem Owned.deleteResponses_leavesOthers {owner : EmergencyRow} {dead : RowKey → Bool}
    (owned : tables.Owned) (member : owner ∈ tables.emergencies)
    (inside : ∀ key, dead key = true → key ∈ owner.responses) :
    LeavesOthers owner.key tables (tables.deleteResponses dead) := by
  intro row stored different
  have alive : ∀ key ∈ row.responses, dead key = false := by
    intro key linked
    by_contra selected
    rw [Bool.not_eq_false] at selected
    exact owned.notMem_of_ne member stored different (inside key selected) linked
  refine ⟨List.mem_map.mpr ⟨row, stored, ?_⟩, ?_⟩
  · have kept : (row.responses.filter fun key => !dead key) = row.responses :=
      List.filter_eq_self.mpr fun key linked => by simp [alive key linked]
    rw [unlinkedRow, kept]
  · exact emergencyAt_congr fun key linked => deleteResponses_response? (alive key linked)

/-- A changed response is presented by its owner only. -/
theorem Owned.updateResponse_leavesOthers {owner : EmergencyRow} {key : RowKey}
    (owned : tables.Owned) (member : owner ∈ tables.emergencies) (linked : key ∈ owner.responses)
    (change : Response → Response) :
    LeavesOthers owner.key tables (tables.updateResponse key change) := by
  intro row stored different
  refine ⟨stored, emergencyAt_congr fun other otherLinked => ?_⟩
  apply updateResponse_response? change
  rintro rfl
  exact owned.notMem_of_ne member stored different linked otherLinked

/-- Deleting an emergency after its responses leaves the others alone. -/
theorem Owned.removeEmergency_leavesOthers {owner : EmergencyRow} (owned : tables.Owned)
    (member : owner ∈ tables.emergencies) :
    LeavesOthers owner.key tables
      ((tables.deleteResponses (owner.responses.contains ·)).deleteEmergency owner.key) := by
  intro row stored different
  have inside : ∀ key, owner.responses.contains key = true → key ∈ owner.responses := by simp
  obtain ⟨kept, same⟩ := owned.deleteResponses_leavesOthers member inside row stored different
  exact ⟨RowTable.mem_moveLastOver.mpr ⟨kept, by simpa using different⟩, same⟩

/-- Deleting one response of a list keeps the others in their order. -/
theorem Owned.deleteResponses_keepsOrder (owned : tables.Owned) (emergency response : RowKey) :
    KeepsOrder emergency response tables (tables.deleteResponses (· == response)) := by
  intro row found
  obtain ⟨stored, rfl⟩ := emergency?_eq_some found
  have once := owned.nodup_links stored
  have left : unlinkedRow (· == response) row ∈
      (tables.deleteResponses (· == response)).emergencies := List.mem_map_of_mem stored
  refine ⟨unlinkedRow (· == response) row, emergency?_of_mem left, rfl, ?_, ?_⟩
  · rw [once.erase_eq_filter]
    rfl
  · intro key linked
    exact deleteResponses_response? (by simpa using (List.mem_filter.mp linked).2)

end Tables

namespace Mutation

variable {tables contents : Tables} {mutation : Mutation} {emergency : RowKey}

/-- What is requested of one emergency leaves the others alone. -/
theorem requested_leavesOthers (owned : tables.Owned) (on : mutation.On tables emergency)
    (asked : mutation.requested tables = some contents) :
    LeavesOthers emergency tables contents := by
  cases mutation with
  | addEmergency added => exact absurd on id
  | addResponse response target =>
      obtain rfl := on
      obtain ⟨key, appended⟩ := requested_addResponse asked
      rcases Tables.append_eq_some appended with ⟨-, ⟨value, -, rfl, -⟩ | ⟨stored, -, rfl⟩⟩
      · exact Tables.appendNew_leavesOthers target value
      · exact Tables.updateEmergency_leavesOthers target _ _ _
  | removeResponse response target =>
      obtain ⟨rfl, row, found, linked⟩ := on
      obtain ⟨stored, rfl⟩ := Tables.emergency?_eq_some found
      rw [requested_removeResponse asked]
      refine owned.deleteResponses_leavesOthers stored fun key selected => ?_
      rwa [beq_iff_eq.mp selected]
  | updateResponse response newValue =>
      obtain ⟨row, found, linked⟩ := on
      obtain ⟨stored, rfl⟩ := Tables.emergency?_eq_some found
      rw [Tables.setResponse_eq_some asked]
      exact owned.updateResponse_leavesOthers stored linked _
  | updateEmergency target newName =>
      obtain rfl := on
      obtain ⟨row, -, rfl⟩ := Tables.setType_eq_some asked
      exact Tables.updateEmergency_leavesOthers target _ _ _
  | removeEmergency target =>
      obtain rfl := on
      obtain ⟨row, found, rfl⟩ := requested_removeEmergency asked
      obtain ⟨stored, rfl⟩ := Tables.emergency?_eq_some found
      exact owned.removeEmergency_leavesOthers stored
  | clearAllData => exact absurd on id

/-- Operations on one emergency are not rejected. -/
theorem not_rejected_of_on (device : Device) (on : mutation.On tables emergency) :
    mutation.rejected device tables = false := by
  cases mutation with
  | addEmergency added => exact absurd on id
  | _ => rfl

/-- Operations on one emergency leave the user defaults as they were. -/
theorem defaultsAfter_of_on (now : Date) (defaults : UserDefaults)
    (on : mutation.On tables emergency) : mutation.defaultsAfter now defaults = defaults := by
  cases mutation with
  | clearAllData => exact absurd on id
  | _ => rfl

end Mutation

/-- In every state reached while only fresh objects are stored, an operation on
one emergency leaves all other emergencies, their responses and the user
defaults as they were, and removing a response leaves the rest of its list in
order. -/
theorem operation_leavesOthers {device : Device} {history : List (Performed Stores Operation)}
    {before after : Stores} {operation : Operation} {mutation : Mutation} {emergency : RowKey}
    (runs : Runs (Operation.FreshStep device) Stores.empty history before)
    (step : operation.Step device before after) (mutates : operation.action = .mutate mutation)
    (on : mutation.On before.tables emergency) :
    LeavesOthers emergency before.tables after.tables ∧ after.defaults = before.defaults ∧
      ∀ response, mutation = .removeResponse response emergency →
        KeepsOrder emergency response before.tables after.tables := by
  have owned := runs_owned runs
  obtain ⟨contents, asked, rfl, -⟩ := step.mutate_cases device mutates
  rw [tables_settled, Mutation.staged, Mutation.not_rejected_of_on device on,
    Mutation.defaultsAfter_of_on _ _ on]
  refine ⟨Mutation.requested_leavesOthers owned on asked, rfl, ?_⟩
  rintro response rfl
  rw [Mutation.requested_removeResponse asked]
  exact owned.deleteResponses_keepsOrder emergency response

/-- Of two emergencies with responses, one loses its own. -/
theorem operation_leavesOthers_flood :
    let both := (Tables.empty.insertEmergency "Fire").insertEmergency "Flood"
    let tables := (both.appendNew 0 ⟨"7", "", seconds 86400⟩).appendNew 1 ⟨"8", "", seconds 86401⟩
    let left := tables.deleteResponses (· == 2)
    LeavesOthers 0 tables left ∧ ({} : UserDefaults) = {} ∧
      ∀ response, Mutation.removeResponse 2 0 = .removeResponse response 0 →
        KeepsOrder 0 response tables left := by
  intro both tables left
  have first : Operation.FreshStep (Device.gmt "") Stores.empty
      ⟨.mutate (.addEmergency (.unmanaged ⟨"Fire", []⟩)), 0, true, [succeeded]⟩
      ⟨⟨Tables.empty.insertEmergency "Fire", none⟩, {}⟩ := ⟨rfl, trivial⟩
  have second : Operation.FreshStep (Device.gmt "")
      ⟨⟨Tables.empty.insertEmergency "Fire", none⟩, {}⟩
      ⟨.mutate (.addEmergency (.unmanaged ⟨"Flood", []⟩)), 1, true, [succeeded]⟩
      ⟨⟨both, none⟩, {}⟩ := ⟨rfl, trivial⟩
  have third : Operation.FreshStep (Device.gmt "") ⟨⟨both, none⟩, {}⟩
      ⟨.mutate (.addResponse (.unmanaged ⟨"7", "", seconds 86400⟩) 0), 2, true, [succeeded]⟩
      ⟨⟨both.appendNew 0 ⟨"7", "", seconds 86400⟩, none⟩, {}⟩ := ⟨rfl, trivial⟩
  have fourth : Operation.FreshStep (Device.gmt "")
      ⟨⟨both.appendNew 0 ⟨"7", "", seconds 86400⟩, none⟩, {}⟩
      ⟨.mutate (.addResponse (.unmanaged ⟨"8", "", seconds 86401⟩) 1), 3, true, [succeeded]⟩
      ⟨⟨tables, none⟩, {}⟩ := ⟨rfl, trivial⟩
  have removed : Operation.Step (Device.gmt "") ⟨⟨tables, none⟩, {}⟩
      ⟨.mutate (.removeResponse 2 0), 4, true, [succeeded]⟩ ⟨⟨left, none⟩, {}⟩ := rfl
  exact operation_leavesOthers (.step (.step (.step (.step .initial first) second) third) fourth)
    removed rfl ⟨rfl, ⟨0, "Fire", [2]⟩, rfl, List.mem_singleton_self 2⟩

end ResponseTracker
