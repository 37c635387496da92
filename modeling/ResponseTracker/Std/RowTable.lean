import Mathlib.Data.List.Perm.Basic
import Mathlib.Data.List.Nodup

/-!
# Tables that delete by moving their last row

Deleting a row of such a table moves the last row into its place. `moveLastOver`
deletes every selected row, from the last to the first. Up to the order of the
rows that is a filter (`moveLastOver_perm`). Where the last row comes from is
told by the places of the selected rows (`getLast?_moveLastOver_iff`).
-/

namespace RowTable

universe u v

variable {Row : Type u} {Key : Type v}

/-- Close the gap before the given rows with the last of them. -/
def fillGap : List Row → List Row
  | [] => []
  | row :: rows => (row :: rows).getLast (List.cons_ne_nil row rows) :: (row :: rows).dropLast

/-- Delete the selected rows, the last one first. -/
def moveLastOver (dead : Row → Bool) : List Row → List Row
  | [] => []
  | row :: rows =>
      if dead row then fillGap (moveLastOver dead rows) else row :: moveLastOver dead rows

theorem fillGap_perm (rows : List Row) : (fillGap rows).Perm rows := by
  cases rows with
  | nil => exact .nil
  | cons row rows =>
      have split := List.dropLast_append_getLast (List.cons_ne_nil row rows)
      calc fillGap (row :: rows)
          |>.Perm ((row :: rows).dropLast ++ [(row :: rows).getLast (List.cons_ne_nil row rows)]) :=
            (List.perm_append_singleton _ _).symm
        _ |>.Perm (row :: rows) := by rw [split]

/-- Deletion keeps exactly the rows that were not selected. -/
theorem moveLastOver_perm (dead : Row → Bool) (rows : List Row) :
    (moveLastOver dead rows).Perm (rows.filter fun row => !dead row) := by
  induction rows with
  | nil => exact .nil
  | cons row rows ih =>
      by_cases selected : dead row = true
      · simpa [moveLastOver, selected] using (fillGap_perm _).trans ih
      · simpa [moveLastOver, selected] using ih

theorem mem_moveLastOver {dead : Row → Bool} {rows : List Row} {row : Row} :
    row ∈ moveLastOver dead rows ↔ row ∈ rows ∧ dead row = false := by
  rw [(moveLastOver_perm dead rows).mem_iff, List.mem_filter]
  simp

/-- A row appended under a key above all others keeps the keys distinct. -/
theorem nodup_append_fresh {key : Row → Nat} {rows : List Row} {row : Row}
    (distinct : (rows.map key).Nodup) (fresh : ∀ old ∈ rows, key old < key row) :
    ((rows ++ [row]).map key).Nodup := by
  rw [List.map_append, List.map_singleton, List.nodup_append]
  refine ⟨distinct, List.nodup_singleton _, ?_⟩
  intro number member other new equal
  obtain ⟨old, stored, rfl⟩ := List.mem_map.mp member
  have below := fresh old stored
  rw [equal, List.mem_singleton.mp new] at below
  exact Nat.lt_irrefl _ below

/-- Changing rows in place keeps the keys. -/
theorem map_key_map {key : Row → Key} {change : Row → Row}
    (keeps : ∀ row, key (change row) = key row) (rows : List Row) :
    (rows.map change).map key = rows.map key := by
  rw [List.map_map]
  exact List.map_congr_left fun row _ => keeps row

/-- Deletion keeps the keys of a table distinct. -/
theorem nodup_moveLastOver {key : Row → Key} {rows : List Row} (dead : Row → Bool)
    (distinct : (rows.map key).Nodup) : ((moveLastOver dead rows).map key).Nodup := by
  rw [((moveLastOver_perm dead rows).map key).nodup_iff]
  exact distinct.sublist (List.filter_sublist.map key)

/-- Deleting one key takes one row out of a table. -/
theorem perm_cons_moveLastOver [DecidableEq Key] {key : Row → Key} {rows : List Row} {row : Row}
    (distinct : (rows.map key).Nodup) (stored : row ∈ rows) :
    rows.Perm (row :: moveLastOver (fun other => key other == key row) rows) := by
  refine .trans ?_ ((moveLastOver_perm _ rows).symm.cons row)
  induction rows with
  | nil => exact absurd stored List.not_mem_nil
  | cons first rest ih =>
      obtain ⟨absent, restDistinct⟩ := List.nodup_cons.mp distinct
      rcases List.mem_cons.mp stored with rfl | later
      · have others : rest.filter (fun other => !(key other == key row)) = rest :=
          List.filter_eq_self.mpr fun other member => by
            have different : key other ≠ key row := fun same =>
              absent (same ▸ List.mem_map_of_mem member)
            simp [different]
        simp [others]
      · have different : key first ≠ key row := fun same =>
          absent (same ▸ List.mem_map_of_mem later)
        simpa [different] using ((ih restDistinct later).cons first).trans (.swap _ _ _)

/-! ## The last row after a deletion -/

/-- The number of rows that stay. -/
def remaining (dead : Row → Bool) (rows : List Row) : Nat :=
  (rows.filter fun row => !dead row).length

/-- The row comes to be the last when the selected rows are deleted. With `n` rows
left it is the row at place `n`, if that stays. Otherwise it is the row that comes
to be the last of those behind that place. -/
inductive ComesLast (dead : Row → Bool) (row : Row) : List Row → Prop where
  | stays {front back} (place : remaining dead (front ++ row :: back) = front.length + 1)
      (kept : dead row = false) : ComesLast dead row (front ++ row :: back)
  | filled {front gone back} (place : remaining dead (front ++ gone :: back) = front.length + 1)
      (deleted : dead gone = true) (behind : ComesLast dead row back) :
      ComesLast dead row (front ++ gone :: back)

theorem fillGap_concat (rows : List Row) (last : Row) :
    fillGap (rows ++ [last]) = last :: rows := by
  cases rows with
  | nil => rfl
  | cons row rows =>
      rw [List.cons_append, fillGap]
      congr 1
      · simp
      · rw [← List.cons_append, List.dropLast_concat]

/-- One row of the pass over the table, from the last to the first. -/
def settle (dead : Row → Bool) (row : Row) (moved : List Row) : List Row :=
  if dead row then fillGap moved else row :: moved

theorem moveLastOver_append (dead : Row → Bool) (front back : List Row) :
    moveLastOver dead (front ++ back) = front.foldr (settle dead) (moveLastOver dead back) := by
  induction front with
  | nil => rfl
  | cons row front ih => rw [List.cons_append, moveLastOver, ih, List.foldr_cons, settle]

theorem length_moveLastOver (dead : Row → Bool) (rows : List Row) :
    (moveLastOver dead rows).length = remaining dead rows :=
  (moveLastOver_perm dead rows).length_eq

theorem remaining_append (dead : Row → Bool) (front back : List Row) :
    remaining dead (front ++ back) = remaining dead front + remaining dead back := by
  simp [remaining]

/-- The gaps of a front part are filled from the end of a supply, so that what
stands before the supply comes to stand right behind the front part. -/
theorem foldr_settle (dead : Row → Bool) (front keep supply : List Row)
    (enough : front.length - remaining dead front ≤ supply.length) :
    ∃ filled, filled.length = front.length ∧
      front.foldr (settle dead) (keep ++ supply) = filled ++ keep ++
        supply.take (supply.length - (front.length - remaining dead front)) := by
  induction front with
  | nil => exact ⟨[], rfl, by simp⟩
  | cons row front ih =>
      have fewer : remaining dead front ≤ front.length := List.length_filter_le _ front
      cases selected : dead row with
      | true =>
          have same : remaining dead (row :: front) = remaining dead front := by
            simp [remaining, selected]
          rw [same, List.length_cons] at enough
          obtain ⟨filled, length, rest⟩ := ih (by omega)
          obtain ⟨unused, left⟩ :
              ∃ unused, unused = supply.length - (front.length + 1 - remaining dead front) :=
            ⟨_, rfl⟩
          have within : unused < supply.length := by omega
          have last : supply.length - (front.length - remaining dead front) = unused + 1 := by omega
          refine ⟨supply[unused] :: filled, by rw [List.length_cons, length, List.length_cons], ?_⟩
          rw [List.foldr_cons, settle, if_pos selected, rest, last,
            ← List.take_append_getElem within, ← List.append_assoc, fillGap_concat, same,
            List.length_cons, ← left]
          rfl
      | false =>
          have more : remaining dead (row :: front) = remaining dead front + 1 := by
            simp [remaining, selected]
          rw [more, List.length_cons, Nat.add_sub_add_right] at enough ⊢
          obtain ⟨filled, length, rest⟩ := ih enough
          refine ⟨row :: filled, by rw [List.length_cons, length], ?_⟩
          rw [List.foldr_cons, settle, if_neg (by simp [selected]), rest]
          rfl

/-- When as many rows stay as there are up to a row, that row comes to be the last
unless it is deleted. Then the last of those behind it does. -/
theorem getLast?_moveLastOver_append (dead : Row → Bool) (front : List Row) (row : Row)
    (back : List Row) (count : remaining dead (front ++ row :: back) = front.length + 1) :
    (moveLastOver dead (front ++ row :: back)).getLast? =
      if dead row then (moveLastOver dead back).getLast? else some row := by
  have fewer : remaining dead front ≤ front.length := List.length_filter_le _ front
  have supplied := length_moveLastOver dead back
  rw [moveLastOver_append, moveLastOver]
  rw [remaining_append] at count
  cases selected : dead row with
  | true =>
      have same : remaining dead (row :: back) = remaining dead back := by
        simp [remaining, selected]
      rw [if_pos rfl, if_pos rfl]
      rcases List.eq_nil_or_concat (moveLastOver dead back) with nothing | ⟨supply, last, supplies⟩
      · rw [nothing, List.length_nil] at supplied
        omega
      · rw [List.concat_eq_append] at supplies
        rw [supplies, List.length_append, List.length_singleton] at supplied
        obtain ⟨filled, -, moved⟩ := foldr_settle dead front [last] supply (by omega)
        have used : supply.length - (front.length - remaining dead front) = 0 := by omega
        rw [supplies, fillGap_concat, ← List.singleton_append, moved, used]
        simp
  | false =>
      have more : remaining dead (row :: back) = remaining dead back + 1 := by
        simp [remaining, selected]
      obtain ⟨filled, -, moved⟩ :=
        foldr_settle dead front [row] (moveLastOver dead back) (by omega)
      have used :
          (moveLastOver dead back).length - (front.length - remaining dead front) = 0 := by omega
      rw [if_neg (by simp), if_neg (by simp), ← List.singleton_append, moved, used]
      simp

/-- Where rows stay, there is a row at the place of the last one. -/
theorem exists_place {dead : Row → Bool} {rows : List Row} (left : remaining dead rows ≠ 0) :
    ∃ front found back, rows = front ++ found :: back ∧
      remaining dead (front ++ found :: back) = front.length + 1 := by
  have fewer : remaining dead rows ≤ rows.length := List.length_filter_le _ rows
  have within : remaining dead rows - 1 < rows.length := by omega
  have split : rows = rows.take (remaining dead rows - 1) ++
      rows[remaining dead rows - 1] :: rows.drop (remaining dead rows - 1 + 1) :=
    (List.take_append_drop (remaining dead rows - 1) rows).symm.trans
      (congrArg _ (List.drop_eq_getElem_cons within))
  refine ⟨_, _, _, split, ?_⟩
  rw [← split, List.length_take]
  omega

/-- The last row of the table a deletion leaves. -/
theorem getLast?_moveLastOver_iff {dead : Row → Bool} {rows : List Row} {row : Row} :
    (moveLastOver dead rows).getLast? = some row ↔ ComesLast dead row rows := by
  constructor
  · intro last
    induction count : rows.length using Nat.strongRecOn generalizing rows with
    | ind length ih =>
        have left : remaining dead rows ≠ 0 := by
          intro nothing
          rw [← length_moveLastOver, List.length_eq_zero_iff] at nothing
          simp [nothing] at last
        obtain ⟨front, found, back, rfl, place⟩ := exists_place left
        rw [getLast?_moveLastOver_append dead front found back place] at last
        cases selected : dead found with
        | true =>
            rw [if_pos selected] at last
            refine .filled place selected (ih back.length ?_ last rfl)
            rw [← count, List.length_append, List.length_cons]
            omega
        | false =>
            rw [if_neg (by simp [selected]), Option.some.injEq] at last
            subst last
            exact .stays place selected
  · intro comes
    induction comes with
    | stays place kept =>
        rw [getLast?_moveLastOver_append dead _ row _ place, if_neg (by simp [kept])]
    | filled place deleted behind ih =>
        rw [getLast?_moveLastOver_append dead _ _ _ place, if_pos deleted, ih]

/-! ## Deleting one row -/

/-- Nothing moves where nothing is selected. -/
theorem moveLastOver_eq_self {dead : Row → Bool} {rows : List Row}
    (kept : ∀ row ∈ rows, dead row = false) : moveLastOver dead rows = rows := by
  induction rows with
  | nil => rfl
  | cons row rows ih =>
      rw [moveLastOver, if_neg (by simp [kept row]), ih fun other member =>
        kept other (List.mem_cons_of_mem row member)]

/-- Only the gap of the deleted row is filled. -/
theorem moveLastOver_one {dead : Row → Bool} {front back : List Row} {gone : Row}
    (deleted : dead gone = true) (before : ∀ row ∈ front, dead row = false)
    (behind : ∀ row ∈ back, dead row = false) :
    moveLastOver dead (front ++ gone :: back) = front ++ fillGap back := by
  induction front with
  | nil => rw [List.nil_append, moveLastOver, if_pos deleted, moveLastOver_eq_self behind,
      List.nil_append]
  | cons row front ih =>
      rw [List.cons_append, moveLastOver, if_neg (by simp [before row]), ih fun other member =>
        before other (List.mem_cons_of_mem row member), List.cons_append]

theorem fillGap_map (change : Row → Key) (rows : List Row) :
    fillGap (rows.map change) = (fillGap rows).map change := by
  rcases List.eq_nil_or_concat rows with rfl | ⟨front, last, rfl⟩
  · rfl
  · rw [List.concat_eq_append, List.map_append, List.map_singleton, fillGap_concat, fillGap_concat,
      List.map_cons]

/-- Rows selected by their keys are deleted like the keys alone. -/
theorem map_moveLastOver (dead : Key → Bool) (key : Row → Key) (rows : List Row) :
    (moveLastOver (fun row => dead (key row)) rows).map key = moveLastOver dead (rows.map key) := by
  induction rows with
  | nil => rfl
  | cons row rows ih =>
      rw [List.map_cons, moveLastOver, moveLastOver, ← ih]
      split
      · exact (fillGap_map key _).symm
      · rfl

/-- The deleted middle row is replaced by the last row. -/
example : moveLastOver (· == 2) [1, 2, 3, 4] = [1, 4, 3] := by decide

end RowTable
