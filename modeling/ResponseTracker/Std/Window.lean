import Mathlib.Algebra.Ring.Int.Defs
import Mathlib.Algebra.BigOperators.Group.List.Basic
import Mathlib.Order.Interval.Set.LinearOrder

/-!
# Weights of dated entries over windows of a linear order

An entry is a position of a linear order with an integer weight. `total` is the
weight a set of positions selects from a list of entries. It is additive in
the list and in disjoint sets, so adjacent windows partition the total of
their union (`total_Ico_add_Ici`).
-/

namespace Window

universe u v

open Classical in
/-- The weight of the entries positioned in a window. -/
noncomputable def total {τ : Type u} (window : Set τ) (entries : List (τ × ℤ)) : ℤ :=
  (entries.map fun entry => if entry.1 ∈ window then entry.2 else 0).sum

section Additive

variable {τ : Type u} {window other : Set τ} {entries more : List (τ × ℤ)}

@[simp] theorem total_nil : total window [] = 0 := rfl

open Classical in
theorem total_cons (position : τ) (weight : ℤ) :
    total window ((position, weight) :: entries) =
      (if position ∈ window then weight else 0) + total window entries := by
  simp [total]

theorem total_cons_of_mem {position : τ} (weight : ℤ) (member : position ∈ window) :
    total window ((position, weight) :: entries) = weight + total window entries := by
  rw [total_cons, if_pos member]

theorem total_append :
    total window (entries ++ more) = total window entries + total window more := by
  simp [total]

theorem total_perm (perm : entries.Perm more) : total window entries = total window more :=
  (perm.map _).sum_eq

/-- Disjoint windows add up to their union. -/
theorem total_union (apart : ∀ position ∈ window, position ∉ other) :
    total (window ∪ other) entries = total window entries + total other entries := by
  induction entries with
  | nil => rfl
  | cons entry rest ih =>
      obtain ⟨position, weight⟩ := entry
      rw [total_cons, total_cons, total_cons, ih]
      by_cases here : position ∈ window
      · simp [here, apart position here]
        omega
      · by_cases there : position ∈ other
        · simp [here, there]
          omega
        · simp [here, there]

/-- Unit entries count their positions in the window. -/
theorem total_units {α : Type v} (position : α → τ) (selects : τ → Bool)
    (decides : ∀ at', selects at' = true ↔ at' ∈ window) (items : List α) :
    total window (items.map fun item => (position item, 1)) =
      ((items.filter fun item => selects (position item)).length : ℤ) := by
  induction items with
  | nil => rfl
  | cons item rest ih =>
      rw [List.map_cons, total_cons, ih]
      by_cases selected : selects (position item) = true
      · simp [selected, (decides _).mp selected]
        omega
      · have outside : position item ∉ window := fun member => selected ((decides _).mpr member)
        simp [selected, outside]

/-- Unit entries weigh nothing in a window exactly if none is in it. -/
theorem total_units_eq_zero_iff {α : Type v} (position : α → τ) (items : List α) :
    total window (items.map fun item => (position item, 1)) = 0 ↔
      ∀ item ∈ items, position item ∉ window := by
  classical
  rw [total_units position (fun at' => decide (at' ∈ window)) (by simp)]
  simp [List.filter_eq_nil_iff]

/-- A window that lacks one of the unit entries of a larger one weighs less. -/
theorem total_units_lt {α : Type v} (position : α → τ) {items : List α} {item : α}
    (inside : window ⊆ other) (member : item ∈ items) (admitted : position item ∈ other)
    (outside : position item ∉ window) :
    total window (items.map fun item => (position item, 1)) <
      total other (items.map fun item => (position item, 1)) := by
  have apart : ∀ at' ∈ window, at' ∉ other \ window := fun _ selected rest => rest.2 selected
  have rest : total (other \ window) (items.map fun item => (position item, 1)) ≠ 0 := fun zero =>
    (total_units_eq_zero_iff position items).mp zero item member ⟨admitted, outside⟩
  have nonNegative : 0 ≤ total (other \ window) (items.map fun item => (position item, 1)) := by
    classical
    rw [total_units position (fun at' => decide (at' ∈ other \ window)) (by simp)]
    exact Int.natCast_nonneg _
  rw [← Set.union_sdiff_cancel inside, total_union apart]
  omega

/-- The weight in a window depends only on which of the entries are in it. -/
theorem total_congr (same : ∀ entry ∈ entries, entry.1 ∈ window ↔ entry.1 ∈ other) :
    total window entries = total other entries := by
  induction entries with
  | nil => rfl
  | cons entry rest ih =>
      obtain ⟨here, later⟩ := List.forall_mem_cons.mp same
      rw [total_cons, total_cons, ih later]
      by_cases admitted : entry.1 ∈ window
      · rw [if_pos admitted, if_pos (here.mp admitted)]
      · rw [if_neg admitted, if_neg (mt here.mpr admitted)]

/-- The weight in a window is the sum over the entries selected by it. -/
theorem total_eq_sum_filter (selects : τ → Bool)
    (decides : ∀ at', selects at' = true ↔ at' ∈ window) (entries : List (τ × ℤ)) :
    total window entries = ((entries.filter fun entry => selects entry.1).map Prod.snd).sum := by
  induction entries with
  | nil => rfl
  | cons entry rest ih =>
      obtain ⟨position, weight⟩ := entry
      rw [total_cons, ih]
      by_cases selected : selects position = true
      · simp [selected, (decides _).mp selected]
      · have outside : position ∉ window := fun member => selected ((decides _).mpr member)
        simp [selected, outside]

/-- Of entries that weigh nothing less than zero a larger window selects more. -/
theorem total_mono (inside : window ⊆ other) (nonNegative : ∀ entry ∈ entries, 0 ≤ entry.2) :
    total window entries ≤ total other entries := by
  induction entries with
  | nil => exact le_rfl
  | cons entry rest ih =>
      obtain ⟨here, later⟩ := List.forall_mem_cons.mp nonNegative
      rw [total_cons, total_cons]
      refine Int.add_le_add ?_ (ih later)
      by_cases selected : entry.1 ∈ window
      · rw [if_pos selected, if_pos (inside selected)]
      · rw [if_neg selected]
        split
        · exact here
        · exact le_rfl

theorem total_singleton (position : τ) (weight : ℤ) [Decidable (position ∈ window)] :
    total window [(position, weight)] = if position ∈ window then weight else 0 := by
  simp [total]

/-- Copies of a unit entry weigh as much as one entry of their number. -/
theorem total_replicate (position : τ) (count : Nat) :
    total window (List.replicate count (position, 1)) = total window [(position, (count : ℤ))] := by
  induction count with
  | zero => simp [total]
  | succ count ih =>
      rw [List.replicate_succ, total_cons, ih, total_cons, total_cons]
      by_cases member : position ∈ window
      · simp [member]
        omega
      · simp [member]

end Additive

section Intervals

variable {τ : Type u} [LinearOrder τ] {first next : τ} (entries : List (τ × ℤ))

/-- A window and the unbounded one that begins where it ends partition what
follows the first bound. -/
theorem total_Ico_add_Ici (ordered : first ≤ next) :
    total (Set.Ico first next) entries + total (Set.Ici next) entries =
      total (Set.Ici first) entries := by
  rw [← Set.Ico_union_Ici_eq_Ici ordered, total_union]
  exact fun _ inside after => not_lt.mpr after inside.2

/-- Closing a window adds what is positioned exactly at its end. -/
theorem total_Icc (ordered : first ≤ next) :
    total (Set.Icc first next) entries =
      total (Set.Ico first next) entries + total {next} entries := by
  rw [← Set.Ico_union_right ordered, total_union]
  rintro position inside rfl
  exact lt_irrefl _ inside.2

/-- Beyond a bound that is itself the position of a unit entry, no larger bound
leaves as much. -/
theorem le_of_total_Ici_inter {within : Set τ} {positions : List τ} (member : next ∈ positions)
    (inside : next ∈ within)
    (same : total (Set.Ici first ∩ within) (positions.map fun position => (position, 1)) =
      total (Set.Ici next ∩ within) (positions.map fun position => (position, 1))) :
    first ≤ next := by
  by_contra after
  have fewer : Set.Ici first ∩ within ⊆ Set.Ici next ∩ within := fun position selected =>
    ⟨le_trans (not_le.mp after).le selected.1, selected.2⟩
  have admitted : id next ∈ Set.Ici next ∩ within := ⟨le_rfl, inside⟩
  have outside : id next ∉ Set.Ici first ∩ within := fun selected => after selected.1
  exact (total_units_lt id fewer member admitted outside).ne same

end Intervals
end Window
