import Mathlib.Order.Monotone.Basic
import Mathlib.Algebra.Order.Ring.Int
import Mathlib.Data.Int.ConditionallyCompleteOrder
import Mathlib.Tactic.Ring

/-!
# The proleptic Gregorian calendar

Days are counted from 1970-01-01, months by one integer index, twelve to a year
with January first, so that the predecessor of a January is the December of the
year before. `firstDay` computes the first day of a month and `monthOf` the
month of a day. `firstDay_le_iff` says that the two are adjoint, which is all
that later modules use of the calendar.

The computation counts years from March, so that the leap day is the last day
of a year and the months before it have the lengths of one repeating pattern.
-/

namespace Gregorian

/-- Days from 0000-03-01 to the first of March of a year. -/
def marchDay (year : Int) : Int := 365 * year + year / 4 - year / 100 + year / 400

/-- Days from 0000-03-01 to 1970-01-01. -/
def epochDay : Int := 719468

/-- The year from March to February which contains a day counted from
0000-03-01: the average-length estimate is off by at most one. -/
def marchYear (day : Int) : Int :=
  let estimate := day * 400 / 146097
  if day < marchDay estimate then estimate - 1
  else if marchDay (estimate + 1) ≤ day then estimate + 1
  else estimate

/-- The calendar year of a month index. -/
def year (month : Int) : Int := month / 12

/-- The number of a month in its year, January being one. -/
def monthNumber (month : Int) : Int := month % 12 + 1

/-- The month index of a calendar year and a month number; a number outside
one to twelve rolls over into the neighbouring years. -/
def monthIndex (year number : Int) : Int := 12 * year + (number - 1)

/-- The first day of a month. -/
def firstDay (month : Int) : Int :=
  marchDay ((month - 2) / 12) + (153 * ((month - 2) % 12) + 2) / 5 - epochDay

/-- The month of a day. -/
def monthOf (day : Int) : Int :=
  let counted := day + epochDay
  let year := marchYear counted
  12 * year + (5 * (counted - marchDay year) + 2) / 153 + 2

theorem marchYear_spec (day : Int) :
    marchDay (marchYear day) ≤ day ∧ day < marchDay (marchYear day + 1) := by
  unfold marchYear
  simp only
  split
  · unfold marchDay at *
    omega
  · split
    · unfold marchDay at *
      omega
    · unfold marchDay at *
      omega

/-- The first day of a month, by its place in the year from March. -/
theorem firstDay_march {year number : Int} (lower : 0 ≤ number) (upper : number ≤ 11) :
    firstDay (12 * year + number + 2) = marchDay year + (153 * number + 2) / 5 - epochDay := by
  have sameYear : (12 * year + number + 2 - 2) / 12 = year := by omega
  have sameNumber : (12 * year + number + 2 - 2) % 12 = number := by omega
  rw [firstDay, sameYear, sameNumber]

/-- The month after the last one from March begins the next year from March. -/
theorem firstDay_nextMarch (year : Int) :
    firstDay (12 * year + 11 + 2 + 1) = marchDay (year + 1) - epochDay := by
  have next : 12 * year + 11 + 2 + 1 = 12 * (year + 1) + 0 + 2 := by ring
  rw [next, firstDay_march (by omega) (by omega)]
  omega

theorem marchDay_succ (year : Int) :
    marchDay year + 365 ≤ marchDay (year + 1) ∧ marchDay (year + 1) ≤ marchDay year + 366 := by
  unfold marchDay
  omega

/-- A month is at least 28 days long. -/
theorem firstDay_add_le (month : Int) : firstDay month + 28 ≤ firstDay (month + 1) := by
  obtain ⟨year, number, lower, upper, rfl⟩ :
      ∃ year number : Int, 0 ≤ number ∧ number ≤ 11 ∧ month = 12 * year + number + 2 :=
    ⟨(month - 2) / 12, (month - 2) % 12, by omega, by omega, by omega⟩
  rw [firstDay_march lower upper]
  by_cases last : number = 11
  · subst last
    rw [firstDay_nextMarch]
    have length := marchDay_succ year
    omega
  · have next : 12 * year + number + 2 + 1 = 12 * year + (number + 1) + 2 := by ring
    rw [next, firstDay_march (by omega) (by omega)]
    omega

/-- Months begin in their order. -/
theorem firstDay_lt_firstDay_iff {first next : Int} :
    firstDay first < firstDay next ↔ first < next := by
  have increasing : StrictMono firstDay := strictMono_int_of_lt_succ fun month => by
    have length := firstDay_add_le month
    omega
  exact increasing.lt_iff_lt

theorem firstDay_monthOf (day : Int) :
    firstDay (monthOf day) ≤ day ∧ day < firstDay (monthOf day + 1) := by
  obtain ⟨lower, upper⟩ := marchYear_spec (day + epochDay)
  unfold monthOf
  simp only
  generalize marchYear (day + epochDay) = year at lower upper ⊢
  have length := marchDay_succ year
  generalize placeEq : day + epochDay - marchDay year = place
  have placeBounds : 0 ≤ place ∧ place ≤ 365 := by omega
  rw [firstDay_march (by omega) (by omega)]
  constructor
  · omega
  · by_cases last : (5 * place + 2) / 153 = 11
    · rw [last, firstDay_nextMarch]
      omega
    · have next : 12 * year + (5 * place + 2) / 153 + 2 + 1 =
          12 * year + ((5 * place + 2) / 153 + 1) + 2 := by ring
      rw [next, firstDay_march (by omega) (by omega)]
      omega

/-- A month begins no later than a day exactly if it is not after the day's month. -/
theorem firstDay_le_iff (month day : Int) : firstDay month ≤ day ↔ month ≤ monthOf day := by
  obtain ⟨lower, upper⟩ := firstDay_monthOf day
  constructor
  · intro begun
    have before := firstDay_lt_firstDay_iff.mp (lt_of_le_of_lt begun upper)
    omega
  · intro ordered
    by_contra later
    have after := firstDay_lt_firstDay_iff.mp (lt_of_le_of_lt lower (not_le.mp later))
    omega

@[simp] theorem year_monthIndex (month : Int) :
    monthIndex (year month) (monthNumber month) = month := by
  unfold monthIndex year monthNumber
  omega

/-- Leap years have a 29th of February, centuries only every fourth time. -/
example : monthOf (firstDay (monthIndex 2000 3) - 1) = monthIndex 2000 2 ∧
    firstDay (monthIndex 2000 3) - firstDay (monthIndex 2000 2) = 29 ∧
    firstDay (monthIndex 2100 3) - firstDay (monthIndex 2100 2) = 28 ∧
    firstDay (monthIndex 1970 1) = 0 := by decide

end Gregorian
