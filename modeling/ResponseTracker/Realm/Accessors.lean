import ResponseTracker.Realm.Tables

/-!
# Accessors and what the operations leave of them

Which accessors an operation leaves valid, and the sequences of operations that
come to one: unlinking a response before its deletion, and setting all its
properties in turn.
-/

namespace ResponseTracker.Tables

variable {tables : Tables}

/-- A response is valid exactly if its row is stored. -/
theorem response?_isSome {key : RowKey} :
    (tables.response? key).isSome ↔ key ∈ tables.responses.map ResponseRow.key := by
  rw [response?, List.find?_isSome, List.mem_map]
  simp

/-- An emergency is valid exactly if its row is stored. -/
theorem emergency?_isSome {key : RowKey} :
    (tables.emergency? key).isSome ↔ key ∈ tables.emergencies.map EmergencyRow.key := by
  rw [emergency?, List.find?_isSome, List.mem_map]
  simp

/-- The row an emergency is found in has its key. -/
theorem emergency?_eq_some {key : RowKey} {row : EmergencyRow}
    (found : tables.emergency? key = some row) :
    row ∈ tables.emergencies ∧ row.key = key :=
  ⟨List.mem_of_find?_eq_some found, by simpa using List.find?_some found⟩

/-- The row a response is found in has its key. -/
theorem response?_eq_some {key : RowKey} {row : ResponseRow}
    (found : tables.response? key = some row) :
    row ∈ tables.responses ∧ row.key = key :=
  ⟨List.mem_of_find?_eq_some found, by simpa using List.find?_some found⟩

/-- A stored row is the one its key leads to. -/
theorem response?_of_mem {row : ResponseRow} (stored : row ∈ tables.responses) :
    tables.response? row.key = some row := by
  obtain ⟨found, leads⟩ := Option.isSome_iff_exists.mp
    (response?_isSome.mpr (List.mem_map_of_mem stored))
  obtain ⟨member, sameKey⟩ := response?_eq_some leads
  rw [leads, List.inj_on_of_nodup_map tables.responses_nodup member stored sameKey]

/-- A key leads to the stored row that has it, and to no other. -/
theorem response?_eq_some_iff {key : RowKey} {row : ResponseRow} :
    tables.response? key = some row ↔ row ∈ tables.responses ∧ row.key = key := by
  constructor
  · exact response?_eq_some
  · rintro ⟨stored, rfl⟩
    exact response?_of_mem stored

/-- A key leads to the same row in two databases that store the same rows under it. -/
theorem response?_congr {others : Tables} {key : RowKey}
    (same : ∀ row : ResponseRow, row.key = key →
      (row ∈ tables.responses ↔ row ∈ others.responses)) :
    tables.response? key = others.response? key := by
  ext row
  rw [response?_eq_some_iff, response?_eq_some_iff]
  exact and_congr_left (same row)

/-- Adding an emergency reads its type, so both fail on a deleted one. -/
theorem addEmergency_eq_none_iff {emergency : EmergencyRef} :
    tables.addEmergency emergency = none ↔ tables.typeOf emergency = none := by
  cases emergency with
  | unmanaged value => simp [addEmergency, typeOf]
  | managed key => simp [addEmergency, typeOf]

/-! ## What an operation that succeeds has done -/

/-- Appending needs a valid emergency. It stores a new response or links a stored one. -/
theorem append_eq_some {emergency : RowKey} {response : ResponseRef} {stored : Tables}
    {key : RowKey} (appended : tables.append emergency response = some (stored, key)) :
    (∃ row, tables.emergency? emergency = some row) ∧
      ((∃ value, response = .unmanaged value ∧ stored = tables.appendNew emergency value ∧
          key = tables.nextKey) ∨
        ∃ member : key ∈ tables.responses.map ResponseRow.key,
          response = .managed key ∧ stored = tables.appendStored emergency key member) := by
  simp only [append, Option.bind_eq_bind, Option.bind_eq_some_iff] at appended
  obtain ⟨row, found, appended⟩ := appended
  refine ⟨⟨row, found⟩, ?_⟩
  cases response with
  | unmanaged value =>
      obtain ⟨rfl, rfl⟩ := Prod.mk.inj (Option.some.inj appended)
      exact .inl ⟨value, rfl, rfl, rfl⟩
  | managed link =>
      simp only at appended
      split at appended
      · next member =>
          obtain ⟨rfl, rfl⟩ := Prod.mk.inj (Option.some.inj appended)
          exact .inr ⟨member, rfl, rfl⟩
      · exact absurd appended (by simp)

/-- An assignment that succeeds changes the one row. -/
theorem setResponse_eq_some {key : RowKey} {change : Response → Response} {contents : Tables}
    (set : tables.setResponse key change = some contents) :
    contents = tables.updateResponse key change := by
  simp only [setResponse, Option.bind_eq_bind, Option.bind_eq_some_iff] at set
  obtain ⟨-, -, same⟩ := set
  exact (Option.some.inj same).symm

/-- A rename that succeeds changes the type in the one row. -/
theorem setType_eq_some {key : RowKey} {type : String} {contents : Tables}
    (set : tables.setType key type = some contents) :
    ∃ row, tables.emergency? key = some row ∧
      contents = tables.updateEmergency key (fun _ => type) id fun _ _ => .inl := by
  simp only [setType, Option.bind_eq_bind, Option.bind_eq_some_iff] at set
  obtain ⟨row, found, same⟩ := set
  exact ⟨row, found, (Option.some.inj same).symm⟩

/-! ## Links -/

@[simp] theorem updateEmergency_responses (key : RowKey) (type : String → String)
    (links : List RowKey → List RowKey) (stored) :
    (tables.updateEmergency key type links stored).responses = tables.responses := rfl

@[simp] theorem unlinkFirst_response? (key link other : RowKey) :
    (tables.unlinkFirst key link).response? other = tables.response? other := rfl

/-- Erasing one occurrence of a link is no matter if then all are dropped. -/
theorem filter_erase_self (links : List RowKey) (link : RowKey) :
    (links.erase link).filter (fun key => !(key == link)) =
      links.filter fun key => !(key == link) := by
  induction links with
  | nil => rfl
  | cons first rest ih =>
      by_cases same : first = link
      · simp [same]
      · simp [same, ih]

/-- Unlinking one occurrence first does not change what the deletion leaves. -/
theorem unlinkFirst_deleteResponses (key link : RowKey) :
    (tables.unlinkFirst key link).deleteResponses (· == link) =
      tables.deleteResponses (· == link) := by
  ext1
  case emergencies =>
    simp only [deleteResponses, unlinkFirst, updateEmergency, List.map_map]
    refine List.map_congr_left fun row _ => ?_
    simp only [Function.comp_apply, updatedRow]
    split
    · simp only [unlinkedRow, id_eq, filter_erase_self]
    · rfl
  case responses => rfl
  case nextKey => rfl

/-- An appended response can be accessed. -/
theorem append_response? {emergency : RowKey} {response : ResponseRef} {stored : Tables}
    {key : RowKey} (appended : tables.append emergency response = some (stored, key)) :
    (stored.response? key).isSome := by
  rw [response?_isSome]
  rcases append_eq_some appended with ⟨-, ⟨value, rfl, rfl, rfl⟩ | ⟨member, rfl, rfl⟩⟩
  · simp [appendNew, insertResponse]
  · exact member

/-- Storing an appended response once more does nothing. -/
theorem append_addResponse {emergency : RowKey} {response : ResponseRef} {stored : Tables}
    {key : RowKey} (appended : tables.append emergency response = some (stored, key)) :
    stored.addResponse (.managed key) = some (stored, key) := by
  obtain ⟨row, found⟩ := Option.isSome_iff_exists.mp (append_response? appended)
  simp [addResponse, found]

/-- Removing a response from a list and deleting it is deleting it. -/
theorem removeFrom_delete {emergency response : RowKey}
    (owner : (tables.emergency? emergency).isSome) (stored : (tables.response? response).isSome) :
    (tables.removeFrom emergency response).bind (·.delete response) =
      some (tables.deleteResponses (· == response)) := by
  obtain ⟨row, foundOwner⟩ := Option.isSome_iff_exists.mp owner
  obtain ⟨value, found⟩ := Option.isSome_iff_exists.mp stored
  by_cases linked : response ∈ row.responses
  · simp [removeFrom, delete, foundOwner, found, linked, unlinkFirst_deleteResponses]
  · simp [removeFrom, delete, foundOwner, found, linked]

/-! ## Values -/

/-- Assignments delete nothing. -/
@[simp] theorem updateResponse_response?_isSome (tables : Tables) (key other : RowKey)
    (change : Response → Response) :
    ((tables.updateResponse key change).response? other).isSome =
      (tables.response? other).isSome := by
  rw [Bool.eq_iff_iff, response?_isSome, response?_isSome, updateResponse,
    RowTable.map_key_map (changedRow_key key change)]

/-- Changes of one row compose. -/
theorem updateResponse_updateResponse (key : RowKey) (first next : Response → Response) :
    (tables.updateResponse key first).updateResponse key next =
      tables.updateResponse key (next ∘ first) := by
  ext1
  case emergencies => rfl
  case responses =>
    simp only [updateResponse, List.map_map]
    refine List.map_congr_left fun row _ => ?_
    simp only [Function.comp_apply, changedRow]
    split <;> simp
  case nextKey => rfl

/-- Two assignments in turn are one. -/
theorem setResponse_setResponse (key : RowKey) (first next : Response → Response) :
    (tables.setResponse key first).bind (·.setResponse key next) =
      tables.setResponse key (next ∘ first) := by
  cases found : tables.response? key with
  | none => simp [setResponse, found]
  | some row =>
      have still := tables.updateResponse_response?_isSome key key first
      rw [found, Option.isSome_some, Option.isSome_iff_exists] at still
      obtain ⟨changed, foundChanged⟩ := still
      simp [setResponse, found, foundChanged, updateResponse_updateResponse]

/-! ## Deleting an emergency -/

theorem deleteResponses_emergency?_isSome (tables : Tables) (dead : RowKey → Bool) (key : RowKey) :
    ((tables.deleteResponses dead).emergency? key).isSome = (tables.emergency? key).isSome := by
  rw [Bool.eq_iff_iff, emergency?_isSome, emergency?_isSome, deleteResponses,
    RowTable.map_key_map (unlinkedRow_key dead)]

/-- An emergency is still stored when the responses in its list have been deleted. -/
theorem deleteListOf_deleteObject {emergency : RowKey} {row : EmergencyRow}
    (owner : tables.emergency? emergency = some row) :
    (tables.deleteListOf emergency).bind (·.deleteObject emergency) =
      some ((tables.deleteResponses (row.responses.contains ·)).deleteEmergency emergency) := by
  have kept := tables.deleteResponses_emergency?_isSome (row.responses.contains ·) emergency
  rw [owner, Option.isSome_some, Option.isSome_iff_exists] at kept
  obtain ⟨left, found⟩ := kept
  rw [deleteListOf, owner, Option.bind_eq_bind, Option.bind_some, Option.bind_some, deleteObject,
    found]
  rfl

end ResponseTracker.Tables
