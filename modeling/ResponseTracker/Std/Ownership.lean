import Mathlib.Data.List.Perm.Basic
import Mathlib.Data.List.Nodup
import Mathlib.Data.List.Pairwise
import Mathlib.Algebra.BigOperators.Group.List.Basic
import Mathlib.Algebra.Ring.Int.Defs

/-!
# Items owned by holders

Each holder has a list of items. `Owned` says that the lists together are the
stored items, each as often as it is stored. Where no item is stored twice,
every stored item is therefore in one list, once (`Owned.exactly_once`). The
other rules keep `Owned` while holders and items come and go.
-/

namespace Ownership

universe u v w

variable {Holder : Type u} {Item : Type v} {Key : Type w}

/-- The lists of all holders together are the stored items. -/
def Owned (items : Holder → List Item) (holders : List Holder) (stored : List Item) : Prop :=
  (holders.flatMap items).Perm stored

namespace Owned

variable {items : Holder → List Item} {holders : List Holder} {stored : List Item}

theorem empty : Owned items [] [] := .nil

/-- A new holder without items. -/
theorem add_holder {holder : Holder} (owned : Owned items holders stored)
    (nothing : items holder = []) :
    Owned items (holders ++ [holder]) stored := by
  rw [Owned, List.flatMap_append, List.flatMap_singleton, nothing, List.append_nil]
  exact owned

/-- A holder that has no items can go. -/
theorem remove_holder {holder : Holder} {others : List Holder} (owned : Owned items holders stored)
    (split : holders.Perm (holder :: others)) (nothing : items holder = []) :
    Owned items others stored := by
  have rest := (split.symm.flatMap_right items).trans owned
  rwa [List.flatMap_cons, nothing, List.nil_append] at rest

/-- Holders may change in everything but their items. -/
theorem map_holders {change : Holder → Holder} (owned : Owned items holders stored)
    (keeps : ∀ holder, items (change holder) = items holder) :
    Owned items (holders.map change) stored := by
  have same : (holders.map change).flatMap items = holders.flatMap items := by
    rw [List.flatMap_map]
    simp only [keeps]
  rw [Owned, same]
  exact owned

/-- One of the holders, known by its key, takes a new item. -/
theorem append_item [DecidableEq Key] {key : Holder → Key} {target : Key}
    (change : Holder → Holder) (item : Item) (owned : Owned items holders stored)
    (distinct : (holders.map key).Nodup) (present : target ∈ holders.map key)
    (takes : ∀ holder, key holder = target → items (change holder) = items holder ++ [item])
    (keeps : ∀ holder, key holder ≠ target → items (change holder) = items holder) :
    Owned items (holders.map change) (stored ++ [item]) := by
  obtain ⟨holder, member, rfl⟩ := List.mem_map.mp present
  obtain ⟨before, after, rfl⟩ := List.append_of_mem member
  have others : ∀ other ∈ before ++ after, key other ≠ key holder := by
    intro other otherMember same
    have apart := (List.perm_middle.map key).nodup_iff.mp distinct
    rw [List.map_cons, List.nodup_cons] at apart
    exact apart.1 (same ▸ List.mem_map_of_mem otherMember)
  have unchanged : ∀ part : List Holder, (∀ other ∈ part, key other ≠ key holder) →
      (part.map change).flatMap items = part.flatMap items := by
    intro part apart
    rw [List.flatMap_map]
    exact List.flatMap_congr fun other otherMember => keeps other (apart other otherMember)
  have ends : (before ++ holder :: after).map change |>.flatMap items
      |>.Perm ((before ++ holder :: after).flatMap items ++ [item]) := by
    rw [List.map_append, List.map_cons, List.flatMap_append, List.flatMap_cons, takes holder rfl,
      unchanged before fun other inside => others other (List.mem_append_left _ inside),
      unchanged after fun other inside => others other (List.mem_append_right _ inside),
      List.flatMap_append, List.flatMap_cons]
    simp only [List.append_assoc]
    exact (List.perm_append_comm.append_left _).append_left _
  exact ends.trans (owned.append_right _)

/-- Items vanish from the store and from every list. -/
theorem delete_items {change : Holder → Holder} {left : List Item} (dead : Item → Bool)
    (owned : Owned items holders stored)
    (drops : ∀ holder, items (change holder) = (items holder).filter fun item => !dead item)
    (remain : left.Perm (stored.filter fun item => !dead item)) :
    Owned items (holders.map change) left := by
  have filtered : (holders.map change).flatMap items =
      (holders.flatMap items).filter fun item => !dead item := by
    rw [List.flatMap_map, List.filter_flatMap]
    simp only [drops]
  rw [Owned, filtered]
  exact (List.Perm.filter _ owned).trans remain.symm

/-- Where no item is stored twice, every stored item is in one list, once. -/
theorem exactly_once [DecidableEq Item] {item : Item} (owned : Owned items holders stored)
    (distinct : stored.Nodup) (member : item ∈ stored) :
    ∃ holder ∈ holders, (items holder).count item = 1 ∧
      ∀ other ∈ holders, item ∈ items other → other = holder := by
  have once : (holders.flatMap items).Nodup := owned.nodup_iff.mpr distinct
  obtain ⟨holder, present, held⟩ := List.mem_flatMap.mp (owned.mem_iff.mpr member)
  obtain ⟨single, apart⟩ := List.nodup_flatMap.mp once
  refine ⟨holder, present, List.count_eq_one_of_mem (single holder present) held, ?_⟩
  intro other otherPresent otherHeld
  by_contra different
  have symmetric : Std.Symm (Function.onFun List.Disjoint items) := ⟨fun _ _ => List.disjoint_symm⟩
  exact apart.forall otherPresent present different otherHeld held

/-- Values computed from the items of all holders are those of the stored items. -/
theorem values {Value : Type w} (value? : Item → Option Value)
    (owned : Owned items holders stored) :
    (holders.flatMap fun holder => (items holder).filterMap value?).Perm
      (stored.filterMap value?) := by
  rw [← List.filterMap_flatMap]
  exact List.Perm.filterMap value? owned

end Owned

/-- A measure that adds up over lists adds up over holders. -/
theorem sum_flatMap {Value : Type w} (measure : List Value → ℤ) (nothing : measure [] = 0)
    (additive : ∀ values others, measure (values ++ others) = measure values + measure others)
    (values : Holder → List Value) (holders : List Holder) :
    measure (holders.flatMap values) = (holders.map fun holder => measure (values holder)).sum := by
  induction holders with
  | nil => exact nothing
  | cons holder rest ih => rw [List.flatMap_cons, additive, ih, List.map_cons, List.sum_cons]

end Ownership
