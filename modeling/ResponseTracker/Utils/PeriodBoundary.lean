import ResponseTracker.Utils.DateExt
import Mathlib.Order.Bounds.Basic

/-!
# Computed boundaries and calendar boundaries

`Calendar.date(from:)` answers the beginning of a local month or year. `toLocal`
moves it by the zone's offset, so a computed boundary is the calendar boundary
exactly if the zone has no offset there (`trueBoundaries_iff`).
-/

namespace ResponseTracker

/-- The calendar fields of the month before, January following December. -/
def precedingMonth (components : DateComponents) : DateComponents :=
  if components.month = some 1 then
    { year := components.year.map (· - 1), month := some 12 }
  else { components with month := components.month.map (· - 1) }

/-- The boundaries computed at an instant are the earliest instants of the local
month, year and preceding month of that instant. -/
structure TrueBoundaries (zone : TimeZone) (date : Date) : Prop where
  month : IsLeast { other | zone.dateComponents [.year, .month] other =
    zone.dateComponents [.year, .month] date } (startOfMonth zone date)
  year : IsLeast { other | zone.dateComponents [.year] other =
    zone.dateComponents [.year] date } (startOfYear zone date)
  previousMonth : IsLeast { other | zone.dateComponents [.year, .month] other =
    precedingMonth (zone.dateComponents [.year, .month] date) } (startOfPreviousMonth zone date)
  begun : startOfMonth zone date ≤ date
  sameMonth : ∀ other, startOfMonth zone date ≤ other → other ≤ date →
    zone.dateComponents [.year, .month] other = zone.dateComponents [.year, .month] date

variable {zone : TimeZone} {date other : Date}

/-- Local year and month determine the month index. -/
theorem dateComponents_month_eq_iff :
    zone.dateComponents [.year, .month] other = zone.dateComponents [.year, .month] date ↔
      zone.monthIndex other = zone.monthIndex date := by
  constructor
  · intro same
    have years := congrArg DateComponents.year same
    have months := congrArg DateComponents.month same
    simp only [TimeZone.dateComponents, Gregorian.year, Gregorian.monthNumber] at years months
    simp at years months
    omega
  · intro same
    simp [TimeZone.dateComponents, same]

/-- Instants have the same year exactly if their months are in the same year. -/
theorem dateComponents_year_eq_iff :
    zone.dateComponents [.year] other = zone.dateComponents [.year] date ↔
      Gregorian.year (zone.monthIndex other) = Gregorian.year (zone.monthIndex date) := by
  simp [TimeZone.dateComponents]

/-- An instant has the preceding month exactly if its month's index is less by one. -/
theorem dateComponents_precedingMonth_iff :
    zone.dateComponents [.year, .month] other =
        precedingMonth (zone.dateComponents [.year, .month] date) ↔
      zone.monthIndex other = zone.monthIndex date - 1 := by
  by_cases january : zone.monthIndex date % 12 = 0
  · simp only [precedingMonth, TimeZone.dateComponents, DateComponents.ext_iff]
    simp [january, Gregorian.year, Gregorian.monthNumber]
    omega
  · simp only [precedingMonth, TimeZone.dateComponents, DateComponents.ext_iff]
    simp [january, Gregorian.year, Gregorian.monthNumber]
    omega

section Regular

variable (regular : zone.Regular)
include regular

/-- A shifted beginning is the earliest instant of a period exactly if the zone
has no offset at the beginning. The period consists of the months `months`, the
first of which is `first`. -/
theorem toLocal_isLeast_iff (months : Set Int) {first : Int} (earliest : IsLeast months first) :
    IsLeast { instant | zone.monthIndex instant ∈ months } (toLocal zone (zone.monthBegin first)) ↔
      zone.secondsFromGMT (zone.monthBegin first) = 0 := by
  have begins : IsLeast { instant | zone.monthIndex instant ∈ months } (zone.monthBegin first) := by
    refine ⟨?_, fun instant member => ?_⟩
    · rw [Set.mem_ofPred_eq, zone.monthIndex_monthBegin]
      exact earliest.1
    · rw [regular]
      exact earliest.2 member
  constructor
  · intro least
    have unmoved : seconds (zone.secondsFromGMT (zone.monthBegin first)) = 0 :=
      add_eq_left.mp (least.unique begins)
    unfold seconds at unmoved
    omega
  · intro zero
    simpa [toLocal, zero, seconds] using begins

/-- The computed beginning of the month is the true one exactly if the offset there is zero. -/
theorem startOfMonth_isLeast_iff :
    IsLeast { other | zone.dateComponents [.year, .month] other =
        zone.dateComponents [.year, .month] date } (startOfMonth zone date) ↔
      zone.secondsFromGMT (zone.monthBegin (zone.monthIndex date)) = 0 := by
  simp only [dateComponents_month_eq_iff, startOfMonth_eq]
  exact toLocal_isLeast_iff regular {zone.monthIndex date} isLeast_singleton

/-- The computed beginning of the year is the true one exactly if the offset there is zero. -/
theorem startOfYear_isLeast_iff :
    IsLeast { other | zone.dateComponents [.year] other = zone.dateComponents [.year] date }
        (startOfYear zone date) ↔
      zone.secondsFromGMT (zone.monthBegin (yearIndex zone date)) = 0 := by
  simp only [dateComponents_year_eq_iff, startOfYear_eq]
  apply toLocal_isLeast_iff regular
    { month | Gregorian.year month = Gregorian.year (zone.monthIndex date) }
  refine ⟨?_, fun month member => ?_⟩
  · simp only [Set.mem_ofPred_eq, yearIndex, Gregorian.year, Gregorian.monthIndex]
    omega
  · simp only [Set.mem_ofPred_eq, Gregorian.year] at member
    simp only [yearIndex, Gregorian.year, Gregorian.monthIndex]
    omega

/-- The computed beginning of the previous month is the true one exactly if the
offset there is zero. -/
theorem startOfPreviousMonth_isLeast_iff :
    IsLeast { other | zone.dateComponents [.year, .month] other =
        precedingMonth (zone.dateComponents [.year, .month] date) }
        (startOfPreviousMonth zone date) ↔
      zone.secondsFromGMT (zone.monthBegin (zone.monthIndex date - 1)) = 0 := by
  simp only [dateComponents_precedingMonth_iff, startOfPreviousMonth_eq]
  exact toLocal_isLeast_iff regular {zone.monthIndex date - 1} isLeast_singleton

end Regular

/-- The computed boundaries are the calendar's exactly if the zone's offset is
zero at the beginnings of the local month, of the local year and of the local
month before. -/
theorem trueBoundaries_iff {zone : TimeZone} (regular : zone.Regular) (date : Date) :
    TrueBoundaries zone date ↔
      zone.secondsFromGMT (zone.monthBegin (zone.monthIndex date)) = 0 ∧
      zone.secondsFromGMT (zone.monthBegin (yearIndex zone date)) = 0 ∧
      zone.secondsFromGMT (zone.monthBegin (zone.monthIndex date - 1)) = 0 := by
  constructor
  · intro boundaries
    exact ⟨(startOfMonth_isLeast_iff regular).mp boundaries.month,
      (startOfYear_isLeast_iff regular).mp boundaries.year,
      (startOfPreviousMonth_isLeast_iff regular).mp boundaries.previousMonth⟩
  · rintro ⟨month, year, previousMonth⟩
    have beginning : startOfMonth zone date = zone.monthBegin (zone.monthIndex date) := by
      rw [startOfMonth_eq]
      simp [toLocal, month, seconds]
    have begun : startOfMonth zone date ≤ date := by
      rw [beginning, regular]
    refine ⟨(startOfMonth_isLeast_iff regular).mpr month,
      (startOfYear_isLeast_iff regular).mpr year,
      (startOfPreviousMonth_isLeast_iff regular).mpr previousMonth, begun, ?_⟩
    intro other after notAfter
    rw [dateComponents_month_eq_iff]
    rw [beginning, regular] at after
    exact le_antisymm (regular.monthIndex_mono notAfter) after

/-- At the meridian, in the middle of January 1970. -/
theorem trueBoundaries_gmt :
    TrueBoundaries (TimeZone.fixed 0 (by decide)) (seconds (14 * 86400)) :=
  (trueBoundaries_iff (TimeZone.regular_fixed 0 (by decide)) _).mpr ⟨rfl, rfl, rfl⟩

/-- Five hours behind GMT, in the middle of January 1970, the computed beginning
of the month is 1970-01-01 00:00 GMT, which is still December there. -/
theorem trueBoundaries_fails :
    ¬ TrueBoundaries (TimeZone.fixed (-18000) (by decide)) (seconds (14 * 86400)) := by
  intro boundaries
  have sameFields := boundaries.month.1
  rw [Set.mem_ofPred_eq] at sameFields
  revert sameFields
  decide

end ResponseTracker
