import ResponseTracker.Models.Emergency
import ResponseTracker.Std.RowTable
import Mathlib.Data.List.Basic

/-!
# The tables of the database

One table for each stored class, with rows in table order. A list property
holds the keys of the rows it links. What Realm itself guarantees is carried by
`Tables`: keys are never reused, and links lead to stored rows, because deleting
a response removes it from every list. That every response is in exactly one
list is not among these guarantees; it is a property of the program's runs.

Accessing a deleted object raises an exception. The operations that take a key
answer `none` then.

Deleting one row moves the last one into its place. In which order the rows of a
list are deleted is up to `remove_all_target_rows` of realm-core, which is not
part of the sources; it is assumed to be from the last row of the table to the
first.
-/

namespace ResponseTracker

/-- The identity of a row, which an accessor object keeps while rows move. -/
abbrev RowKey := Nat

structure ResponseRow where
  key : RowKey
  value : Response
deriving DecidableEq

structure EmergencyRow where
  key : RowKey
  type : String
  responses : List RowKey
deriving DecidableEq

@[ext]
structure Tables where
  emergencies : List EmergencyRow
  responses : List ResponseRow
  nextKey : RowKey
  emergencies_nodup : (emergencies.map EmergencyRow.key).Nodup
  responses_nodup : (responses.map ResponseRow.key).Nodup
  links_stored : ∀ row ∈ emergencies, ∀ key ∈ row.responses, key ∈ responses.map ResponseRow.key
  emergencies_allocated : ∀ row ∈ emergencies, row.key < nextKey
  responses_allocated : ∀ row ∈ responses, row.key < nextKey

/-- A reference to a response: an object of its own, or an accessor of a row. -/
inductive ResponseRef where
  | unmanaged (value : Response)
  | managed (key : RowKey)

/-- A reference to an emergency: an object of its own, or an accessor of a row. -/
inductive EmergencyRef where
  | unmanaged (value : Emergency)
  | managed (key : RowKey)

namespace Tables

def empty : Tables where
  emergencies := []
  responses := []
  nextKey := 0
  emergencies_nodup := List.nodup_nil
  responses_nodup := List.nodup_nil
  links_stored := by simp
  emergencies_allocated := by simp
  responses_allocated := by simp

variable (tables : Tables)

def emergency? (key : RowKey) : Option EmergencyRow := tables.emergencies.find? (·.key == key)

def response? (key : RowKey) : Option ResponseRow := tables.responses.find? (·.key == key)

/-- The emergency object an accessor presents. -/
def emergencyAt (row : EmergencyRow) : Emergency where
  type := row.type
  responses := row.responses.filterMap fun key => (tables.response? key).map ResponseRow.value

/-- Append a row for a new response. -/
def insertResponse (value : Response) : Tables :=
  { tables with
    responses := tables.responses ++ [⟨tables.nextKey, value⟩]
    nextKey := tables.nextKey + 1
    responses_nodup := RowTable.nodup_append_fresh tables.responses_nodup tables.responses_allocated
    links_stored := by
      intro row stored key linked
      rw [List.map_append]
      exact List.mem_append_left _ (tables.links_stored row stored key linked)
    emergencies_allocated := fun row stored =>
      Nat.lt_succ_of_lt (tables.emergencies_allocated row stored)
    responses_allocated := by
      intro row stored
      rcases List.mem_append.mp stored with old | new
      · exact Nat.lt_succ_of_lt (tables.responses_allocated row old)
      · rw [List.mem_singleton.mp new]
        exact Nat.lt_succ_self _ }

/-- Append a row for a new emergency without responses. -/
def insertEmergency (type : String) : Tables :=
  { tables with
    emergencies := tables.emergencies ++ [⟨tables.nextKey, type, []⟩]
    nextKey := tables.nextKey + 1
    emergencies_nodup :=
      RowTable.nodup_append_fresh tables.emergencies_nodup tables.emergencies_allocated
    links_stored := by
      intro row stored key linked
      rcases List.mem_append.mp stored with old | new
      · exact tables.links_stored row old key linked
      · rw [List.mem_singleton.mp new] at linked
        exact absurd linked List.not_mem_nil
    emergencies_allocated := by
      intro row stored
      rcases List.mem_append.mp stored with old | new
      · exact Nat.lt_succ_of_lt (tables.emergencies_allocated row old)
      · rw [List.mem_singleton.mp new]
        exact Nat.lt_succ_self _
    responses_allocated := fun row stored =>
      Nat.lt_succ_of_lt (tables.responses_allocated row stored) }

/-- Replace the type and the links of one emergency row. -/
def updatedRow (key : RowKey) (type : String → String) (links : List RowKey → List RowKey)
    (row : EmergencyRow) : EmergencyRow :=
  if row.key == key then ⟨row.key, type row.type, links row.responses⟩ else row

theorem updatedRow_key (key : RowKey) (type : String → String) (links : List RowKey → List RowKey)
    (row : EmergencyRow) : (updatedRow key type links row).key = row.key := by
  unfold updatedRow
  split <;> rfl

/-- Replace the type and the links of one emergency. New links lead to stored rows. -/
def updateEmergency (key : RowKey) (type : String → String) (links : List RowKey → List RowKey)
    (stored : ∀ old, ∀ link ∈ links old,
      link ∈ old ∨ link ∈ tables.responses.map ResponseRow.key) : Tables :=
  { tables with
    emergencies := tables.emergencies.map (updatedRow key type links)
    emergencies_nodup := by
      rw [RowTable.map_key_map (updatedRow_key key type links)]
      exact tables.emergencies_nodup
    links_stored := by
      intro row updated link linked
      obtain ⟨old, member, rfl⟩ := List.mem_map.mp updated
      unfold updatedRow at linked
      split at linked
      · rcases stored old.responses link linked with kept | new
        · exact tables.links_stored old member link kept
        · exact new
      · exact tables.links_stored old member link linked
    emergencies_allocated := by
      intro row updated
      obtain ⟨old, member, rfl⟩ := List.mem_map.mp updated
      rw [updatedRow_key]
      exact tables.emergencies_allocated old member }

/-- Replace the value of one response row. -/
def changedRow (key : RowKey) (change : Response → Response) (row : ResponseRow) : ResponseRow :=
  if row.key == key then ⟨row.key, change row.value⟩ else row

theorem changedRow_key (key : RowKey) (change : Response → Response) (row : ResponseRow) :
    (changedRow key change row).key = row.key := by
  unfold changedRow
  split <;> rfl

/-- Replace the value of one response. -/
def updateResponse (key : RowKey) (change : Response → Response) : Tables :=
  { tables with
    responses := tables.responses.map (changedRow key change)
    responses_nodup := by
      rw [RowTable.map_key_map (changedRow_key key change)]
      exact tables.responses_nodup
    links_stored := by
      rw [RowTable.map_key_map (changedRow_key key change)]
      exact tables.links_stored
    responses_allocated := by
      intro row updated
      obtain ⟨old, member, rfl⟩ := List.mem_map.mp updated
      rw [changedRow_key]
      exact tables.responses_allocated old member }

/-- An emergency row without its links to deleted responses. -/
def unlinkedRow (dead : RowKey → Bool) (row : EmergencyRow) : EmergencyRow :=
  { row with responses := row.responses.filter fun key => !dead key }

theorem unlinkedRow_key (dead : RowKey → Bool) (row : EmergencyRow) :
    (unlinkedRow dead row).key = row.key := rfl

/-- Delete the selected responses, the last one first, and remove them from every list. -/
def deleteResponses (dead : RowKey → Bool) : Tables :=
  { tables with
    emergencies := tables.emergencies.map (unlinkedRow dead)
    responses := RowTable.moveLastOver (fun row => dead row.key) tables.responses
    emergencies_nodup := by
      rw [RowTable.map_key_map (unlinkedRow_key dead)]
      exact tables.emergencies_nodup
    responses_nodup := RowTable.nodup_moveLastOver _ tables.responses_nodup
    links_stored := by
      intro row unlinked key linked
      obtain ⟨old, member, rfl⟩ := List.mem_map.mp unlinked
      obtain ⟨kept, alive⟩ := List.mem_filter.mp linked
      obtain ⟨target, stored, rfl⟩ := List.mem_map.mp (tables.links_stored old member key kept)
      exact List.mem_map.mpr
        ⟨target, RowTable.mem_moveLastOver.mpr ⟨stored, by simpa using alive⟩, rfl⟩
    emergencies_allocated := by
      intro row unlinked
      obtain ⟨old, member, rfl⟩ := List.mem_map.mp unlinked
      exact tables.emergencies_allocated old member
    responses_allocated := fun row stored =>
      tables.responses_allocated row (RowTable.mem_moveLastOver.mp stored).1 }

/-- Delete one emergency. -/
def deleteEmergency (key : RowKey) : Tables :=
  { tables with
    emergencies := RowTable.moveLastOver (fun row => row.key == key) tables.emergencies
    emergencies_nodup := RowTable.nodup_moveLastOver _ tables.emergencies_nodup
    links_stored := fun row stored =>
      tables.links_stored row (RowTable.mem_moveLastOver.mp stored).1
    emergencies_allocated := fun row stored =>
      tables.emergencies_allocated row (RowTable.mem_moveLastOver.mp stored).1 }

/-- Delete every row of every table. -/
def deleteAll : Tables :=
  { tables with
    emergencies := []
    responses := []
    emergencies_nodup := List.nodup_nil
    responses_nodup := List.nodup_nil
    links_stored := by simp
    emergencies_allocated := by simp
    responses_allocated := by simp }

/-- Store a new response and link it last in an emergency's list. -/
def appendNew (key : RowKey) (value : Response) : Tables :=
  (tables.insertResponse value).updateEmergency key id (· ++ [tables.nextKey]) (by
    intro old link linked
    rcases List.mem_append.mp linked with kept | new
    · exact .inl kept
    · right
      rw [List.mem_singleton.mp new]
      exact List.mem_map.mpr ⟨_, List.mem_append_right _ (List.mem_singleton_self _), rfl⟩)

/-- Link a stored response once more, last in an emergency's list. -/
def appendStored (key : RowKey) (link : RowKey)
    (stored : link ∈ tables.responses.map ResponseRow.key) : Tables :=
  tables.updateEmergency key id (· ++ [link]) (by
    intro old other linked
    rcases List.mem_append.mp linked with kept | new
    · exact .inl kept
    · right
      rwa [List.mem_singleton.mp new])

/-- Unlink the first occurrence of a response in an emergency's list. -/
def unlinkFirst (key : RowKey) (link : RowKey) : Tables :=
  tables.updateEmergency key id (·.erase link) fun _ _ linked => .inl (List.mem_of_mem_erase linked)

/-! ## What the program calls -/

/-- `List.append` on a managed list: it also stores an object that is not yet stored. -/
def append (emergency : RowKey) (response : ResponseRef) : Option (Tables × RowKey) := do
  let _ ← tables.emergency? emergency
  match response with
  | .unmanaged value => some (tables.appendNew emergency value, tables.nextKey)
  | .managed key =>
      if stored : key ∈ tables.responses.map ResponseRow.key then
        some (tables.appendStored emergency key stored, key)
      else none

/-- `Realm.add` of a response: adding a stored object does nothing. -/
def addResponse (response : ResponseRef) : Option (Tables × RowKey) :=
  match response with
  | .unmanaged value => some (tables.insertResponse value, tables.nextKey)
  | .managed key => (tables.response? key).map fun _ => (tables, key)

/-- `Realm.add` of an emergency, which also stores the responses it holds. -/
def addEmergency (emergency : EmergencyRef) : Option Tables :=
  match emergency with
  | .unmanaged value =>
      some (value.responses.foldl (fun stored response => stored.appendNew tables.nextKey response)
        (tables.insertEmergency value.type))
  | .managed key => (tables.emergency? key).map fun _ => tables

/-- The type of an emergency, of its own or stored. -/
def typeOf (emergency : EmergencyRef) : Option String :=
  match emergency with
  | .unmanaged value => some value.type
  | .managed key => (tables.emergency? key).map EmergencyRow.type

/-- `Emergency.remove(response:)` -/
def removeFrom (emergency response : RowKey) : Option Tables := do
  let row ← tables.emergency? emergency
  let _ ← tables.response? response
  if response ∈ row.responses then some (tables.unlinkFirst emergency response) else some tables

/-- `Realm.delete` of a response. -/
def delete (response : RowKey) : Option Tables := do
  let _ ← tables.response? response
  some (tables.deleteResponses (· == response))

/-- `Realm.delete` of an emergency's list: it deletes the objects in the list, with
`remove_all_target_rows`. -/
def deleteListOf (emergency : RowKey) : Option Tables := do
  let row ← tables.emergency? emergency
  some (tables.deleteResponses (row.responses.contains ·))

/-- `Realm.delete` of an emergency. -/
def deleteObject (emergency : RowKey) : Option Tables := do
  let _ ← tables.emergency? emergency
  some (tables.deleteEmergency emergency)

/-- Set a property of a stored response. -/
def setResponse (response : RowKey) (change : Response → Response) : Option Tables := do
  let _ ← tables.response? response
  some (tables.updateResponse response change)

/-- Set the type of a stored emergency. -/
def setType (emergency : RowKey) (type : String) : Option Tables := do
  let _ ← tables.emergency? emergency
  some (tables.updateEmergency emergency (fun _ => type) id fun _ _ => .inl)

end Tables
end ResponseTracker
