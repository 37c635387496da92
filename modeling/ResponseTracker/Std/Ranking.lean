import Mathlib.Data.List.Sort
import Mathlib.Order.Basic

/-!
# Places in a stable ranking

Items sorted by descending score, where those of the same score stay in order.
`rank` counts what comes before an item in the unsorted list's own terms;
`getElem?_insertionSort_iff` says that this is the item's place in the sorted
list. Where the score of one item is raised, it moves forward past items that
stay in order (`raised`).
-/

namespace Ranking

universe u v

variable {Item : Type u} {Score : Type v} [DecidableEq Item] [LinearOrder Score]

/-- The number of items with a greater score, and of earlier ones with the same. -/
def rank (score : Item → Score) (item : Item) : List Item → Nat
  | [] => 0
  | first :: rest =>
      if first = item then rest.countP fun other => score item < score other
      else rank score item rest + if score item ≤ score first then 1 else 0

variable {score : Item → Score} {item other : Item} {items : List Item}

/-- A new item comes right behind those of a greater score. -/
theorem idxOf_orderedInsert_self (absent : item ∉ items)
    (sorted : items.Pairwise fun left right => score left ≥ score right) :
    (items.orderedInsert (fun left right => score left ≥ score right) item).idxOf item =
      items.countP fun other => score item < score other := by
  induction items with
  | nil => simp
  | cons first rest ih =>
      obtain ⟨different, absentRest⟩ := not_or.mp (mt List.mem_cons.mpr absent)
      obtain ⟨best, sortedRest⟩ := List.pairwise_cons.mp sorted
      rw [List.orderedInsert_cons]
      by_cases lower : score item ≥ score first
      · have none : (first :: rest).countP (fun other => score item < score other) = 0 := by
          rw [List.countP_eq_zero]
          intro other member
          rcases List.mem_cons.mp member with rfl | later
          · simpa using lower
          · simpa using le_trans (best other later) lower
        rw [if_pos lower, List.idxOf_cons_self, none]
      · rw [if_neg lower, List.idxOf_cons_ne _ (Ne.symm different), ih absentRest sortedRest,
          List.countP_cons_of_pos (by simpa using lower)]

/-- The others of at most the new item's score move back by one place. -/
theorem idxOf_orderedInsert_of_ne (different : other ≠ item) (member : item ∈ items)
    (sorted : items.Pairwise fun left right => score left ≥ score right) :
    (items.orderedInsert (fun left right => score left ≥ score right) other).idxOf item =
      items.idxOf item + if score item ≤ score other then 1 else 0 := by
  induction items with
  | nil => exact absurd member List.not_mem_nil
  | cons first rest ih =>
      obtain ⟨best, sortedRest⟩ := List.pairwise_cons.mp sorted
      rw [List.orderedInsert_cons]
      by_cases lower : score other ≥ score first
      · have notAbove : score item ≤ score other := by
          rcases List.mem_cons.mp member with rfl | later
          · exact lower
          · exact le_trans (best item later) lower
        rw [if_pos lower, List.idxOf_cons_ne _ different, if_pos notAbove]
      · rw [if_neg lower]
        rcases eq_or_ne first item with rfl | notFirst
        · rw [List.idxOf_cons_self, List.idxOf_cons_self, if_neg lower]
        · have later := (List.mem_cons.mp member).resolve_left notFirst.symm
          rw [List.idxOf_cons_ne _ notFirst, List.idxOf_cons_ne _ notFirst, ih later sortedRest,
            Nat.succ_add]

/-- An item's place in the sorted list is its rank. -/
theorem idxOf_insertionSort (distinct : items.Nodup) (member : item ∈ items) :
    (items.insertionSort fun left right => score left ≥ score right).idxOf item =
      rank score item items := by
  induction items with
  | nil => exact absurd member List.not_mem_nil
  | cons first rest ih =>
      obtain ⟨absent, distinctRest⟩ := List.nodup_cons.mp distinct
      have total : Std.Total fun left right : Item => score left ≥ score right :=
        ⟨fun left right => le_total (score right) (score left)⟩
      have transitive : IsTrans Item fun left right => score left ≥ score right :=
        ⟨fun left middle right above below => le_trans below above⟩
      have sorted := List.pairwise_insertionSort
        (fun left right : Item => score left ≥ score right) rest
      have perm := List.perm_insertionSort (fun left right : Item => score left ≥ score right) rest
      rw [List.insertionSort_cons, rank]
      by_cases same : first = item
      · subst same
        rw [if_pos rfl, idxOf_orderedInsert_self (perm.mem_iff.not.mpr absent) sorted,
          perm.countP_eq]
      · have later := (List.mem_cons.mp member).resolve_left (Ne.symm same)
        rw [if_neg same, idxOf_orderedInsert_of_ne same (perm.mem_iff.mpr later) sorted,
          ih distinctRest later]

/-- A place in the sorted list is that of the item whose rank it is. -/
theorem getElem?_insertionSort_iff (distinct : items.Nodup) (member : item ∈ items) {place : Nat} :
    (items.insertionSort fun left right => score left ≥ score right)[place]? = some item ↔
      rank score item items = place := by
  have perm := List.perm_insertionSort (fun left right : Item => score left ≥ score right) items
  rw [← idxOf_insertionSort distinct member]
  constructor
  · intro found
    obtain ⟨inRange, rfl⟩ := List.getElem?_eq_some_iff.mp found
    exact (perm.nodup_iff.mpr distinct).idxOf_getElem place inRange
  · rintro rfl
    exact List.getElem?_idxOf (perm.mem_iff.mpr member)

/-! ## Two scores -/

section Selections

variable {Item : Type u} {Score : Type v} [LinearOrder Score] {score before after : Item → Score}
  {item : Item} {items : List Item}

/-- What no other item beats is put first. -/
theorem orderedInsert_of_best (best : ∀ other ∈ items, score item ≥ score other) :
    items.orderedInsert (fun left right => score left ≥ score right) item = item :: items := by
  cases items with
  | nil => rfl
  | cons first rest => exact List.orderedInsert_cons_of_le _ _ (best first List.mem_cons_self)

theorem filter_orderedInsert (keep : Item → Bool)
    (sorted : items.Pairwise fun left right => score left ≥ score right) :
    (items.orderedInsert (fun left right => score left ≥ score right) item).filter keep =
      if keep item then
        (items.filter keep).orderedInsert (fun left right => score left ≥ score right) item
      else items.filter keep := by
  induction items with
  | nil => cases kept : keep item <;> simp [kept]
  | cons first rest ih =>
      obtain ⟨best, sortedRest⟩ := List.pairwise_cons.mp sorted
      rw [List.orderedInsert_cons]
      by_cases lower : score item ≥ score first
      · have beats : ∀ other ∈ (first :: rest).filter keep, score item ≥ score other := by
          intro other kept
          rcases List.mem_cons.mp (List.mem_filter.mp kept).1 with rfl | later
          · exact lower
          · exact le_trans (best other later) lower
        rw [if_pos lower, List.filter_cons, orderedInsert_of_best beats]
      · rw [if_neg lower, List.filter_cons, ih sortedRest, List.filter_cons]
        cases keep item <;> cases keep first <;> simp [lower]

/-- Sorting a selection is selecting from the sorted list. -/
theorem filter_insertionSort (keep : Item → Bool) (items : List Item) :
    (items.insertionSort fun left right => score left ≥ score right).filter keep =
      (items.filter keep).insertionSort fun left right => score left ≥ score right := by
  induction items with
  | nil => rfl
  | cons first rest ih =>
      have total : Std.Total fun left right : Item => score left ≥ score right :=
        ⟨fun left right => le_total (score right) (score left)⟩
      have transitive : IsTrans Item fun left right => score left ≥ score right :=
        ⟨fun left middle right above below => le_trans below above⟩
      have sorted := List.pairwise_insertionSort
        (fun left right : Item => score left ≥ score right) rest
      rw [List.insertionSort_cons, filter_orderedInsert keep sorted, ih, List.filter_cons]
      cases keep first <;> rfl

theorem insertionSort_congr (same : ∀ item ∈ items, after item = before item) :
    (items.insertionSort fun left right => after left ≥ after right) =
      items.insertionSort fun left right => before left ≥ before right := by
  have mapped := List.map_insertionSort (fun left right => after left ≥ after right)
    (fun left right => before left ≥ before right) id items fun left leftIn right rightIn => by
      rw [same left leftIn, same right rightIn]
      rfl
  rwa [List.map_id, List.map_id] at mapped

end Selections

variable {before after : Item → Score}

theorem rank_le_of_raised (others : ∀ other, other ≠ item → after other = before other)
    (raised : before item ≤ after item) (distinct : items.Nodup) :
    rank after item items ≤ rank before item items := by
  induction items with
  | nil => exact le_rfl
  | cons first rest ih =>
      obtain ⟨absent, distinctRest⟩ := List.nodup_cons.mp distinct
      rw [rank, rank]
      by_cases same : first = item
      · subst same
        rw [if_pos rfl, if_pos rfl]
        refine List.countP_mono_left fun other later above => ?_
        have different : other ≠ first := fun here => absent (here ▸ later)
        rw [others other different, decide_eq_true_eq] at above
        exact decide_eq_true (lt_of_le_of_lt raised above)
      · rw [if_neg same, if_neg same, others first same]
        refine Nat.add_le_add (ih distinctRest) ?_
        by_cases above : after item ≤ before first
        · rw [if_pos above, if_pos (raised.trans above)]
        · rw [if_neg above]
          exact Nat.zero_le _

/-- An item whose score is raised moves forward, and the others stay in order. -/
theorem raised (others : ∀ other, other ≠ item → after other = before other)
    (raised : before item ≤ after item) (distinct : items.Nodup) (member : item ∈ items) :
    (items.insertionSort fun left right => after left ≥ after right).idxOf item ≤
        (items.insertionSort fun left right => before left ≥ before right).idxOf item ∧
      (items.insertionSort fun left right => after left ≥ after right).filter (· ≠ item) =
        (items.insertionSort fun left right => before left ≥ before right).filter (· ≠ item) := by
  rw [idxOf_insertionSort distinct member, idxOf_insertionSort distinct member,
    filter_insertionSort, filter_insertionSort]
  refine ⟨rank_le_of_raised others raised distinct, insertionSort_congr fun other kept => ?_⟩
  exact others other (of_decide_eq_true (List.mem_filter.mp kept).2)

end Ranking
