import ResponseTracker.DataSource.Mutations
import ResponseTracker.Std.Execution

/-!
# The last response

`getLastResponse` answers the last row of a table whose rows move when others
are deleted. A ghost record of the additions tells which stored response was
added latest. `lastIsNewest_iff` tells by the places of the deleted rows in
exactly which runs the two agree: a single response has to be the last row but
one, or the last row behind the newest of the others.

That the list of a deleted emergency loses its responses from the last row of
the table to the first is assumed of `remove_all_target_rows`.
-/

namespace ResponseTracker

open DataManager Execution

/-- The stores with the keys of the responses added so far, in order. -/
structure Logged where
  stores : Stores
  added : List RowKey

/-- The record after an operation on the given tables. -/
def Operation.added (tables : Tables) (added : List RowKey) (operation : Operation) :
    List RowKey :=
  match operation.action with
  | .mutate (.addResponse (.unmanaged _) _) => added ++ [tables.nextKey]
  | .mutate (.addResponse (.managed key) _) => added ++ [key]
  | _ => added

/-- Responses are only added one at a time. -/
def Operation.OneByOne (operation : Operation) : Prop :=
  ∀ value, operation.action = .mutate (.addEmergency (.unmanaged value)) → value.responses = []

def Logged.Step (device : Device) (before : Logged) (operation : Operation)
    (after : Logged) : Prop :=
  operation.Step device before.stores after.stores ∧ operation.OneByOne ∧
    after.added = operation.added before.stores.tables before.added

/-- The stored response added latest, when some of them are to be deleted. -/
def newestLeft (added : List RowKey) (tables : Tables) (dead : RowKey → Bool) : Option RowKey :=
  (added.filter fun key =>
    decide (key ∈ tables.responses.map ResponseRow.key) && !dead key).getLast?

/-- The stored response added latest. -/
def newest (added : List RowKey) (tables : Tables) : Option RowKey :=
  newestLeft added tables fun _ => false

/-- The last response is the most recently added of those stored. -/
def LastIsNewest (state : Logged) : Prop :=
  (getLastResponse state.stores.tables).map ResponseRow.key =
    newest state.added state.stores.tables

/-- The response is the last row but one, or the last row, with nothing but the
newest of the others in the row before it. -/
def RemovedRight (added : List RowKey) (tables : Tables) (response : RowKey) : Prop :=
  ∃ front back, tables.responses.map ResponseRow.key = front ++ response :: back ∧
    (back.length = 1 ∨ back = [] ∧ front.getLast? = newestLeft added tables (· == response))

/-- The list links all responses, or the newest of the others stands where the
row comes from that is moved to the end. -/
def ListRemovedRight (added : List RowKey) (tables : Tables) (links : List RowKey) : Prop :=
  (∀ key ∈ tables.responses.map ResponseRow.key, key ∈ links) ∨
    ∃ key, newestLeft added tables (links.contains ·) = some key ∧
      RowTable.ComesLast (links.contains ·) key (tables.responses.map ResponseRow.key)

/-- Responses are removed from the right places of the table, and a stored
response is added once more only if it is the last row. -/
def EndsRight (performed : Performed Logged Operation) : Prop :=
  let tables := performed.before.stores.tables
  match performed.action.action with
  | .mutate (.addResponse (.managed key) _) =>
      (getLastResponse tables).map ResponseRow.key = some key
  | .mutate (.removeResponse response _) =>
      RemovedRight performed.before.added tables response
  | .mutate (.removeEmergency emergency) => ∀ row, tables.emergency? emergency = some row →
      ListRemovedRight performed.before.added tables row.responses
  | _ => True

section Tables

variable {tables others : Tables} {added : List RowKey}

/-- Neither side depends on more than the keys of the table. -/
theorem lastIsNewest_congr {stores changed : Stores}
    (same : changed.tables.responses.map ResponseRow.key =
      stores.tables.responses.map ResponseRow.key) :
    LastIsNewest ⟨changed, added⟩ ↔ LastIsNewest ⟨stores, added⟩ := by
  unfold LastIsNewest newest newestLeft getLastResponse loadLastResponse
  rw [← List.getLast?_map, ← List.getLast?_map, same]

/-- A response added last is the last row. -/
theorem lastIsNewest_insertResponse {stores : Stores} {value : Response}
    (inserted : stores.tables.responses = tables.responses ++ [⟨tables.nextKey, value⟩]) :
    LastIsNewest ⟨stores, added ++ [tables.nextKey]⟩ := by
  unfold LastIsNewest newest newestLeft getLastResponse loadLastResponse
  simp [inserted]

/-- A stored response added once more is the newest. -/
theorem lastIsNewest_again_iff {stores : Stores} {key : RowKey}
    (same : stores.tables.responses = tables.responses)
    (stored : key ∈ tables.responses.map ResponseRow.key) :
    LastIsNewest ⟨stores, added ++ [key]⟩ ↔
      (getLastResponse tables).map ResponseRow.key = some key := by
  have latest : newest (added ++ [key]) stores.tables = some key := by
    rw [newest, newestLeft, List.filter_append, List.filter_singleton, same]
    simp [stored]
  rw [LastIsNewest, latest, getLastResponse, getLastResponse, loadLastResponse, loadLastResponse,
    same]

/-- After a deletion, its last row has to be the newest left. -/
theorem lastIsNewest_delete_iff {stores : Stores} {dead : RowKey → Bool}
    (deleted : stores.tables.responses =
      RowTable.moveLastOver (fun row => dead row.key) tables.responses) :
    LastIsNewest ⟨stores, added⟩ ↔
      (RowTable.moveLastOver dead (tables.responses.map ResponseRow.key)).getLast? =
        newestLeft added tables dead := by
  have stays : ∀ key, key ∈ stores.tables.responses.map ResponseRow.key ↔
      key ∈ tables.responses.map ResponseRow.key ∧ dead key = false := by
    intro key
    simp only [deleted, List.mem_map, RowTable.mem_moveLastOver]
    grind
  have left : newest added stores.tables = newestLeft added tables dead := by
    unfold newest newestLeft
    congr 2
    funext key
    rw [Bool.eq_iff_iff]
    simp [stays]
  rw [LastIsNewest, left, getLastResponse, loadLastResponse, ← List.getLast?_map, deleted,
    RowTable.map_moveLastOver]

/-- The newest of all stays the newest of those left, unless it is deleted. -/
theorem newestLeft_of_newest {dead : RowKey → Bool} {key : RowKey}
    (latest : newest added tables = some key) (kept : dead key = false) :
    newestLeft added tables dead = some key := by
  obtain ⟨earlier, split⟩ := List.getLast?_eq_some_iff.mp latest
  have filtered : (added.filter fun key =>
      decide (key ∈ tables.responses.map ResponseRow.key) && !dead key) =
        (added.filter fun key =>
          decide (key ∈ tables.responses.map ResponseRow.key) && !false).filter fun key =>
            !dead key := by
    rw [List.filter_filter]
    exact List.filter_congr fun key _ => by simp [Bool.and_comm]
  rw [newestLeft, filtered, split, List.filter_append, List.filter_singleton]
  simp [kept]

/-- A response has one row, with none of it before or behind. -/
theorem notMem_of_split {response : RowKey} {front back : List RowKey}
    (split : tables.responses.map ResponseRow.key = front ++ response :: back) :
    response ∉ front ∧ response ∉ back := by
  have distinct := tables.responses_nodup
  rw [split] at distinct
  obtain ⟨-, rest, apart⟩ := List.nodup_append.mp distinct
  exact ⟨fun member => apart response member response List.mem_cons_self rfl,
    (List.nodup_cons.mp rest).1⟩

/-- Whether a response is removed from the right place can be read off at its row. -/
theorem removedRight_iff_of_split {response : RowKey} {front back : List RowKey}
    (split : tables.responses.map ResponseRow.key = front ++ response :: back) :
    RemovedRight added tables response ↔ back.length = 1 ∨
      back = [] ∧ front.getLast? = newestLeft added tables (· == response) := by
  obtain ⟨before, behind⟩ := notMem_of_split split
  constructor
  · rintro ⟨first, rest, other, right⟩
    obtain ⟨rfl, -, rfl⟩ :=
      (List.append_cons_inj_of_notMem before behind).mp (split.symm.trans other)
    exact right
  · exact fun right => ⟨front, back, split, right⟩

/-- When the newest is the last row, a response is removed from the right place
exactly if the newest of the others then is the last row. -/
theorem removedRight_iff {response : RowKey}
    (newestLast : (tables.responses.map ResponseRow.key).getLast? = newest added tables)
    (stored : response ∈ tables.responses.map ResponseRow.key) :
    (RowTable.moveLastOver (· == response) (tables.responses.map ResponseRow.key)).getLast? =
        newestLeft added tables (· == response) ↔
      RemovedRight added tables response := by
  obtain ⟨front, back, split⟩ := List.append_of_mem stored
  obtain ⟨before, behind⟩ := notMem_of_split split
  have moved : RowTable.moveLastOver (· == response) (front ++ response :: back) =
      front ++ RowTable.fillGap back :=
    RowTable.moveLastOver_one (beq_self_eq_true response)
      (fun key member => beq_eq_false_iff_ne.mpr fun same => before (same ▸ member))
      (fun key member => beq_eq_false_iff_ne.mpr fun same => behind (same ▸ member))
  rw [removedRight_iff_of_split split, split, moved]
  rw [split] at newestLast
  rcases List.eq_nil_or_concat back with rfl | ⟨middle, last, rfl⟩
  · simp [RowTable.fillGap]
  · -- The newest is the last row and stays, so nothing else may come to be the last.
    rw [List.concat_eq_append] at *
    have latest : newest added tables = some last := by
      rw [← newestLast, ← List.cons_append, ← List.append_assoc, List.getLast?_concat]
    have kept : (last == response) = false := by
      rw [beq_eq_false_iff_ne]
      rintro rfl
      exact behind (by simp)
    rw [newestLeft_of_newest latest kept, RowTable.fillGap_concat]
    rcases List.eq_nil_or_concat middle with rfl | ⟨rest, previous, rfl⟩
    · simp
    · have different : previous ≠ last := by
        rintro rfl
        have distinct := tables.responses_nodup
        rw [split] at distinct
        simp [List.nodup_append] at distinct
      have split :
          front ++ last :: rest.concat previous = (front ++ last :: rest) ++ [previous] := by
        simp
      rw [split, List.getLast?_concat]
      simp [different]

/-- The list of an emergency is removed from the right places exactly if the
newest of the others then is the last row. -/
theorem listRemovedRight_iff {links : List RowKey} :
    (RowTable.moveLastOver (links.contains ·) (tables.responses.map ResponseRow.key)).getLast? =
        newestLeft added tables (links.contains ·) ↔
      ListRemovedRight added tables links := by
  have stays : ∀ key, key ∈ RowTable.moveLastOver (links.contains ·)
      (tables.responses.map ResponseRow.key) ↔
        key ∈ tables.responses.map ResponseRow.key ∧ key ∉ links := by
    intro key
    rw [RowTable.mem_moveLastOver]
    simp
  constructor
  · intro last
    cases latest : newestLeft added tables (links.contains ·) with
    | none =>
        rw [latest, List.getLast?_eq_none_iff] at last
        refine .inl fun key stored => by_contra fun kept => ?_
        have left := (stays key).mpr ⟨stored, kept⟩
        rw [last] at left
        exact List.not_mem_nil left
    | some key =>
        rw [latest, RowTable.getLast?_moveLastOver_iff] at last
        exact .inr ⟨key, latest, last⟩
  · rintro (all | ⟨key, latest, comes⟩)
    · have nothing : RowTable.moveLastOver (links.contains ·)
          (tables.responses.map ResponseRow.key) = [] :=
        List.eq_nil_iff_forall_not_mem.mpr fun key left =>
          ((stays key).mp left).2 (all key ((stays key).mp left).1)
      have none : newestLeft added tables (links.contains ·) = none := by
        rw [newestLeft, List.getLast?_eq_none_iff, List.filter_eq_nil_iff]
        intro key _ chosen
        obtain ⟨stored, kept⟩ := Bool.and_eq_true_iff.mp chosen
        have linked := all key (of_decide_eq_true stored)
        simp [linked] at kept
      rw [nothing, none, List.getLast?_nil]
    · rw [latest, RowTable.getLast?_moveLastOver_iff]
      exact comes

end Tables

variable {device : Device}

/-- What an added emergency without responses stores leaves the responses alone. -/
theorem Tables.addEmergency_responses {tables contents : Tables} {emergency : EmergencyRef}
    (bare : ∀ value, emergency = .unmanaged value → value.responses = [])
    (added : tables.addEmergency emergency = some contents) :
    contents.responses = tables.responses := by
  cases emergency with
  | unmanaged value =>
      rw [Tables.addEmergency, bare value rfl] at added
      obtain rfl := Option.some.inj added
      rfl
  | managed key =>
      obtain ⟨row, -, rfl⟩ := Option.map_eq_some_iff.mp added
      rfl

/-- From a state whose last response is the newest, an operation keeps that
exactly if it ends right. -/
theorem lastIsNewest_iff_of_step {before after : Logged} {operation : Operation}
    (newestLast : LastIsNewest before) (step : Logged.Step device before operation after) :
    LastIsNewest after ↔ EndsRight ⟨before, operation, after⟩ := by
  obtain ⟨performed, oneByOne, logged⟩ := step
  obtain ⟨stores, added⟩ := after
  obtain rfl : added = _ := logged
  cases action : operation.action with
  | mutate mutation =>
      obtain ⟨contents, asked, rfl, -⟩ := performed.mutate_cases device action
      cases mutation with
      | addEmergency emergency =>
          simp only [EndsRight, Operation.added, action, iff_true]
          refine (lastIsNewest_congr ?_).mpr newestLast
          rw [tables_settled, Mutation.staged]
          split
          · rfl
          · have bare : ∀ value, emergency = .unmanaged value → value.responses = [] :=
              fun value same => oneByOne value (same ▸ action)
            rw [Tables.addEmergency_responses bare asked]
      | addResponse response emergency =>
          obtain ⟨key, appended⟩ := Mutation.requested_addResponse asked
          rcases Tables.append_eq_some appended with
            ⟨-, ⟨value, rfl, rfl, -⟩ | ⟨stored, rfl, rfl⟩⟩
          · simp only [EndsRight, Operation.added, action, iff_true]
            exact lastIsNewest_insertResponse (by rw [tables_settled]; rfl)
          · simp only [EndsRight, Operation.added, action]
            exact lastIsNewest_again_iff (by rw [tables_settled]; rfl) stored
      | removeResponse response emergency =>
          simp only [EndsRight, Operation.added, action]
          have last : (before.stores.tables.responses.map ResponseRow.key).getLast? =
              newest before.added before.stores.tables := by
            rw [List.getLast?_map]
            exact newestLast
          rw [← removedRight_iff last (Mutation.stored_of_removeResponse asked)]
          apply lastIsNewest_delete_iff
          rw [tables_settled, Mutation.requested_removeResponse asked]
          rfl
      | updateResponse response newValue =>
          simp only [EndsRight, Operation.added, action, iff_true]
          refine (lastIsNewest_congr ?_).mpr newestLast
          rw [tables_settled, Tables.setResponse_eq_some asked]
          exact RowTable.map_key_map (Tables.changedRow_key response _) _
      | updateEmergency emergency newName =>
          simp only [EndsRight, Operation.added, action, iff_true]
          refine (lastIsNewest_congr ?_).mpr newestLast
          obtain ⟨row, -, rfl⟩ := Tables.setType_eq_some asked
          rw [tables_settled]
          rfl
      | removeEmergency emergency =>
          obtain ⟨row, found, rfl⟩ := Mutation.requested_removeEmergency asked
          simp only [EndsRight, Operation.added, action]
          refine (lastIsNewest_delete_iff (by rw [tables_settled]; rfl)).trans ?_
          rw [listRemovedRight_iff]
          refine ⟨fun right other otherFound => ?_, fun right => right row found⟩
          rw [found, Option.some.injEq] at otherFound
          rwa [← otherFound]
      | clearAllData =>
          obtain rfl := Option.some.inj asked
          simp only [EndsRight, Operation.added, action, iff_true]
          rw [LastIsNewest, newest, newestLeft, tables_settled]
          simp [Mutation.staged, Mutation.rejected, Tables.deleteAll, getLastResponse,
            loadLastResponse]
  | manuallyAdd points =>
      obtain rfl := performed.manuallyAdd_eq device action
      simp only [EndsRight, Operation.added, action, iff_true]
      exact (lastIsNewest_congr rfl).mpr newestLast
  | clearPoints =>
      obtain rfl := performed.clearPoints_eq device action
      simp only [EndsRight, Operation.added, action, iff_true]
      exact (lastIsNewest_congr rfl).mpr newestLast

/-- Through a run from a store without responses, the last response stays the
most recently added of those stored exactly if every response is removed from
the last row but one, or from the last row behind the newest of the others, every
list so that the newest of the others comes to be the last, and no other response
than the last is added again. -/
theorem lastIsNewest_iff {history : List (Performed Logged Operation)} {start : Stores}
    {state : Logged} (runs : Runs (Logged.Step device) ⟨start, []⟩ history state)
    (noResponses : start.tables.responses = []) :
    (∀ performed ∈ history, LastIsNewest performed.after) ↔
      ∀ performed ∈ history, EndsRight performed := by
  have begins : LastIsNewest ⟨start, []⟩ := by
    simp [LastIsNewest, newest, newestLeft, getLastResponse, loadLastResponse, noResponses]
  refine runs.forall_iff (fun _ => True) LastIsNewest trivial begins (fun _ _ => trivial)
    (fun _ holds => holds) ?_
  intro performed _ here step
  exact lastIsNewest_iff_of_step here step

/-- Of three responses the second is removed, and then the first with its emergency. -/
theorem lastIsNewest_iff_three :
    let both := (Tables.empty.insertEmergency "Fire").insertEmergency "Flood"
    let one := both.appendNew 0 ⟨"7", "", 0⟩
    let two := one.appendNew 1 ⟨"8", "", 5⟩
    let three := two.appendNew 1 ⟨"9", "", 6⟩
    let left := three.deleteResponses (· == 3)
    let last := (left.deleteResponses ([2].contains ·)).deleteEmergency 0
    let logged (tables : Tables) (added : List RowKey) : Logged := ⟨⟨⟨tables, none⟩, {}⟩, added⟩
    let mutation (mutation : Mutation) : Operation := ⟨.mutate mutation, 0, true, [succeeded]⟩
    ∀ performed ∈ [
      (⟨logged both [], mutation (.addResponse (.unmanaged ⟨"7", "", 0⟩) 0), logged one [2]⟩ :
        Performed Logged Operation),
      ⟨logged one [2], mutation (.addResponse (.unmanaged ⟨"8", "", 5⟩) 1), logged two [2, 3]⟩,
      ⟨logged two [2, 3], mutation (.addResponse (.unmanaged ⟨"9", "", 6⟩) 1),
        logged three [2, 3, 4]⟩,
      ⟨logged three [2, 3, 4], mutation (.removeResponse 3 1), logged left [2, 3, 4]⟩,
      ⟨logged left [2, 3, 4], mutation (.removeEmergency 0), logged last [2, 3, 4]⟩],
      LastIsNewest performed.after := by
  intro both one two three left last logged mutation
  have first : Logged.Step (Device.gmt "") (logged both [])
      (mutation (.addResponse (.unmanaged ⟨"7", "", 0⟩) 0)) (logged one [2]) :=
    ⟨rfl, fun _ same => absurd same (by simp [mutation]), rfl⟩
  have second : Logged.Step (Device.gmt "") (logged one [2])
      (mutation (.addResponse (.unmanaged ⟨"8", "", 5⟩) 1)) (logged two [2, 3]) :=
    ⟨rfl, fun _ same => absurd same (by simp [mutation]), rfl⟩
  have third : Logged.Step (Device.gmt "") (logged two [2, 3])
      (mutation (.addResponse (.unmanaged ⟨"9", "", 6⟩) 1)) (logged three [2, 3, 4]) :=
    ⟨rfl, fun _ same => absurd same (by simp [mutation]), rfl⟩
  have removed : Logged.Step (Device.gmt "") (logged three [2, 3, 4])
      (mutation (.removeResponse 3 1)) (logged left [2, 3, 4]) :=
    ⟨rfl, fun _ same => absurd same (by simp [mutation]), rfl⟩
  have cleared : Logged.Step (Device.gmt "") (logged left [2, 3, 4])
      (mutation (.removeEmergency 0)) (logged last [2, 3, 4]) :=
    ⟨rfl, fun _ same => absurd same (by simp [mutation]), rfl⟩
  apply (lastIsNewest_iff
    (.step (.step (.step (.step (.step .initial first) second) third) removed) cleared) rfl).mpr
  simp only [List.nil_append, List.cons_append, List.forall_mem_cons]
  refine ⟨trivial, trivial, trivial, ?_, ?_, by simp⟩
  · exact ⟨[2], [4], rfl, .inl rfl⟩
  · intro row found
    obtain rfl : (⟨0, "Fire", [2]⟩ : EmergencyRow) = row := Option.some.inj found
    -- The place of the one row that is left has the deleted row, and the row behind it fills it.
    have behind : RowTable.ComesLast ([2].contains ·) 4 ([] ++ 4 :: []) := .stays rfl rfl
    have filled : RowTable.ComesLast ([2].contains ·) 4 ([] ++ 2 :: [4]) := .filled rfl rfl behind
    exact .inr ⟨4, rfl, filled⟩

/-- Of three responses the first is removed. The third takes its place, and the
second becomes the last. -/
theorem lastIsNewest_fails :
    ¬ ∀ history start state, start.tables.responses = [] →
      Runs (Logged.Step (Device.gmt "")) ⟨start, []⟩ history state → LastIsNewest state := by
  intro always
  let fire : Stores := ⟨⟨Tables.empty.insertEmergency "Fire", none⟩, {}⟩
  let one := fire.tables.appendNew 0 ⟨"7", "", 0⟩
  let two := one.appendNew 0 ⟨"8", "", 5⟩
  let three := two.appendNew 0 ⟨"9", "", 6⟩
  have first : Logged.Step (Device.gmt "") ⟨fire, []⟩
      ⟨.mutate (.addResponse (.unmanaged ⟨"7", "", 0⟩) 0), 0, true, [succeeded]⟩
      ⟨⟨⟨one, none⟩, {}⟩, [1]⟩ := ⟨rfl, fun _ same => absurd same (by simp), rfl⟩
  have second : Logged.Step (Device.gmt "") ⟨⟨⟨one, none⟩, {}⟩, [1]⟩
      ⟨.mutate (.addResponse (.unmanaged ⟨"8", "", 5⟩) 0), 0, true, [succeeded]⟩
      ⟨⟨⟨two, none⟩, {}⟩, [1, 2]⟩ := ⟨rfl, fun _ same => absurd same (by simp), rfl⟩
  have third : Logged.Step (Device.gmt "") ⟨⟨⟨two, none⟩, {}⟩, [1, 2]⟩
      ⟨.mutate (.addResponse (.unmanaged ⟨"9", "", 6⟩) 0), 0, true, [succeeded]⟩
      ⟨⟨⟨three, none⟩, {}⟩, [1, 2, 3]⟩ := ⟨rfl, fun _ same => absurd same (by simp), rfl⟩
  have removed : Logged.Step (Device.gmt "") ⟨⟨⟨three, none⟩, {}⟩, [1, 2, 3]⟩
      ⟨.mutate (.removeResponse 1 0), 0, true, [succeeded]⟩
      ⟨⟨⟨three.deleteResponses (· == 1), none⟩, {}⟩, [1, 2, 3]⟩ :=
    ⟨rfl, fun _ same => absurd same (by simp), rfl⟩
  have last := always _ fire _ rfl
    (.step (.step (.step (.step .initial first) second) third) removed)
  unfold LastIsNewest at last
  revert last
  decide +kernel

end ResponseTracker
