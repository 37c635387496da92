import Mathlib.Algebra.Order.BigOperators.Group.List
import Mathlib.Algebra.Order.Ring.Int

/-!
# Additions that trap on overflow

`add?` adds two integers of a signed machine type and answers `none` where the
sum is not of that type. A sum accumulated from a list is answered exactly if
the sums of all its first weights fit (`sum?_eq_some_iff`).
-/

namespace Checked

/-- The integer is one of a signed type of the given width. -/
def Fits (bits : Nat) (value : ℤ) : Prop :=
  -2 ^ (bits - 1) ≤ value ∧ value < 2 ^ (bits - 1)

instance (bits : Nat) (value : ℤ) : Decidable (Fits bits value) :=
  inferInstanceAs (Decidable (_ ∧ _))

/-- An addition that traps when its result does not fit. -/
def add? (bits : Nat) (left right : ℤ) : Option ℤ :=
  if Fits bits (left + right) then some (left + right) else none

/-- The weights added to an accumulator in turn. -/
def sum? (bits : Nat) (start : ℤ) (weights : List ℤ) : Option ℤ := weights.foldlM (add? bits) start

/-- The accumulator fits after each of the weights. -/
def SumsFit (bits : Nat) (start : ℤ) (weights : List ℤ) : Prop :=
  ∀ part, part ≠ [] → part <+: weights → Fits bits (start + part.sum)

variable {bits : Nat} {start left right value weight : ℤ} {weights more : List ℤ}

/-- The result of an addition is the sum, which fits. -/
theorem add?_eq_some_iff : add? bits left right = some value ↔
    Fits bits (left + right) ∧ left + right = value := by
  rw [add?]
  split
  · next fits => simp [fits]
  · next overflows => simp [overflows]

/-- Nothing is added. -/
@[simp] theorem sum?_nil : sum? bits start [] = some start := rfl

/-- The first weight is added first. -/
theorem sum?_cons : sum? bits start (weight :: weights) =
    (add? bits start weight).bind fun first => sum? bits first weights := rfl

/-- A sum continues where that of the first weights ended. -/
theorem sum?_append : sum? bits start (weights ++ more) =
    (sum? bits start weights).bind fun first => sum? bits first more :=
  List.foldlM_append

/-- Nothing has to fit. -/
@[simp] theorem sumsFit_nil : SumsFit bits start [] := fun _ nonempty first =>
  absurd (List.prefix_nil.mp first) nonempty

/-- The accumulator fits after the first weight, and with it after each of the others. -/
theorem sumsFit_cons_iff : SumsFit bits start (weight :: weights) ↔
    Fits bits (start + weight) ∧ SumsFit bits (start + weight) weights := by
  constructor
  · intro fit
    refine ⟨?_, fun part nonempty first => ?_⟩
    · simpa using fit [weight] (by simp) (by simp)
    · have fits := fit (weight :: part) (by simp) (by simpa using first)
      rwa [List.sum_cons, ← add_assoc] at fits
  · rintro ⟨fits, rest⟩ part nonempty first
    rcases List.prefix_cons_iff.mp first with rfl | ⟨others, rfl, within⟩
    · exact absurd rfl nonempty
    · rw [List.sum_cons, ← add_assoc]
      by_cases none : others = []
      · simpa [none] using fits
      · exact rest others none within

/-- The accumulated sum is the sum of the weights, provided that it fits all along. -/
theorem sum?_eq_some_iff : sum? bits start weights = some value ↔
    SumsFit bits start weights ∧ start + weights.sum = value := by
  induction weights generalizing start with
  | nil => simp
  | cons weight rest ih =>
      rw [sum?_cons, sumsFit_cons_iff, List.sum_cons, ← add_assoc]
      cases added : add? bits start weight with
      | none =>
          have overflows : ¬ Fits bits (start + weight) := fun fits => by
            simp [add?, fits] at added
          simp [overflows]
      | some first =>
          obtain ⟨fits, rfl⟩ := add?_eq_some_iff.mp added
          rw [Option.bind_some, ih]
          simp [fits]

/-- No addition traps exactly if the accumulator fits all along. -/
theorem sum?_isSome_iff : (sum? bits start weights).isSome ↔ SumsFit bits start weights := by
  rw [Option.isSome_iff_exists]
  simp [sum?_eq_some_iff]

/-- One more weight fits if the whole sum does. -/
theorem sumsFit_append_singleton_iff : SumsFit bits start (weights ++ [weight]) ↔
    SumsFit bits start weights ∧ Fits bits (start + weights.sum + weight) := by
  rw [← sum?_isSome_iff, sum?_append, ← sum?_isSome_iff]
  cases accumulated : sum? bits start weights with
  | none => simp
  | some first =>
      obtain ⟨-, rfl⟩ := sum?_eq_some_iff.mp accumulated
      simp [sum?_isSome_iff, sumsFit_cons_iff]

/-- What is not negative fits if something larger does. -/
theorem Fits.of_le {larger : ℤ} (fits : Fits bits larger) (nonNegative : 0 ≤ value)
    (below : value ≤ larger) : Fits bits value := by
  have positive : (0 : ℤ) ≤ 2 ^ (bits - 1) := pow_nonneg (by decide) _
  exact ⟨(neg_nonpos.mpr positive).trans nonNegative, below.trans_lt fits.2⟩

/-- The accumulator of weights that are not negative fits all along if the sum of
more of them does. -/
theorem sumsFit_of_sublist (nonNegative : ∀ weight ∈ more, 0 ≤ weight)
    (within : weights.Sublist more) (fits : Fits bits more.sum) : SumsFit bits 0 weights := by
  intro part _ first
  have inside : part.Sublist more := first.sublist.trans within
  rw [zero_add]
  exact fits.of_le (List.sum_nonneg fun weight member => nonNegative weight (inside.subset member))
    (inside.sum_le_sum nonNegative)

end Checked
