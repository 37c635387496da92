import ResponseTracker.Foundation.TimeZone

/-!
# The device's settings

The settings the program reads from the system without passing them on: the
zone, the formatter of dates in the device's locale and Swift's equality of
strings, which is canonical equivalence of their Unicode scalars.
-/

namespace ResponseTracker

/-- The settings, with the one law of the comparison of texts that the proofs use. -/
structure Device where
  timeZone : TimeZone
  formatted : String → Date → String
  sameText : String → String → Bool
  sameText_equivalence : Equivalence fun left right => sameText left right = true

namespace Device

/-- A device in a zone of constant offset that tells all different texts apart. -/
def fixed (offset : Int) (bounded : -64800 ≤ offset ∧ offset ≤ 64800)
    (formatted : String → Date → String) : Device where
  timeZone := .fixed offset bounded
  formatted := formatted
  sameText left right := left == right
  sameText_equivalence := by
    simp only [beq_iff_eq]
    exact eq_equivalence

/-- A device at the meridian that writes every date as the same text. -/
def gmt (dateText : String) : Device :=
  .fixed 0 ⟨by omega, by omega⟩ fun _ _ => dateText

variable (device : Device)

/-- Which of two texts is compared with the other does not matter. -/
theorem sameText_comm (left right : String) :
    device.sameText left right = device.sameText right left := by
  rw [Bool.eq_iff_iff]
  exact ⟨device.sameText_equivalence.symm, device.sameText_equivalence.symm⟩

end Device
end ResponseTracker
