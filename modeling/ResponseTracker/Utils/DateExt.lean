import ResponseTracker.Foundation.Device

/-!
# Date extensions

`startOfMonth`, `startOfYear` and `startOfPreviousMonth` as the program computes
them: the fields are read in the local zone, rebuilt to the beginning of the
local period and then shifted once more by `toLocal`. The results depend on an
instant only through its local month (`startOfMonth_eq`), and they lie in the
order of the months in every zone (`toLocal_monthBegin_lt`).
-/

namespace ResponseTracker

/-- `toString(_:)` -/
def toString (device : Device) (date : Date) (dateFormat : String) : String :=
  device.formatted dateFormat date

/-- The default argument of `toString`. -/
def defaultDateFormat : String := "yyyy-MM-dd hh:mm a"

/-- `dateFrom(components:)`, in the local zone. -/
def dateFrom (zone : TimeZone) (components : DateComponents) : Date := zone.date components

/-- `toLocal(date:)` adds the offset of the zone at the instant itself. -/
def toLocal (zone : TimeZone) (date : Date) : Date := date + seconds (zone.secondsFromGMT date)

/-- `startOfMonth()` -/
def startOfMonth (zone : TimeZone) (date : Date) : Date :=
  let components := zone.dateComponents [.year, .month] date
  let utcDate := dateFrom zone components
  toLocal zone utcDate

/-- `startOfYear()` -/
def startOfYear (zone : TimeZone) (date : Date) : Date :=
  let components := zone.dateComponents [.year] date
  let utcDate := dateFrom zone components
  toLocal zone utcDate

/-- `startOfPreviousMonth()`. In January the month is 0, which `date(from:)` takes
as December of the year before. -/
def startOfPreviousMonth (zone : TimeZone) (date : Date) : Date :=
  let components := zone.dateComponents [.year, .month] date
  let components := match components.month with
    | some month => { components with month := some (month - 1) }
    | none => components
  let utcDate := dateFrom zone components
  toLocal zone utcDate

variable (zone : TimeZone) (date : Date)

/-- The index of the first month of an instant's local year. -/
def yearIndex : Int := Gregorian.monthIndex (Gregorian.year (zone.monthIndex date)) 1

/-- The beginning of the month is computed from the index of the local month alone. -/
theorem startOfMonth_eq :
    startOfMonth zone date = toLocal zone (zone.monthBegin (zone.monthIndex date)) := by
  simp [startOfMonth, dateFrom, TimeZone.date, TimeZone.dateComponents]

/-- The beginning of the year is computed from the index of its first month alone. -/
theorem startOfYear_eq :
    startOfYear zone date = toLocal zone (zone.monthBegin (yearIndex zone date)) := by
  simp [startOfYear, dateFrom, TimeZone.date, TimeZone.dateComponents, yearIndex]

/-- The beginning of the previous month is computed from the index before, also in January. -/
theorem startOfPreviousMonth_eq :
    startOfPreviousMonth zone date = toLocal zone (zone.monthBegin (zone.monthIndex date - 1)) := by
  have before : Gregorian.monthIndex (Gregorian.year (zone.monthIndex date))
      (Gregorian.monthNumber (zone.monthIndex date) - 1) = zone.monthIndex date - 1 := by
    unfold Gregorian.monthIndex Gregorian.year Gregorian.monthNumber
    omega
  simp [startOfPreviousMonth, dateFrom, TimeZone.date, TimeZone.dateComponents, before]

/-- A year's first month is no later than any of its months. -/
theorem yearIndex_le_monthIndex : yearIndex zone date ≤ zone.monthIndex date := by
  unfold yearIndex Gregorian.monthIndex Gregorian.year
  omega

/-- The shifted beginning of a month lies on the first day a clock without
offset shows for it. -/
theorem toLocal_monthBegin_bounds (month : Int) :
    clockMonthStart month ≤ toLocal zone (zone.monthBegin month) ∧
      toLocal zone (zone.monthBegin month) < clockMonthStart month + seconds 86400 :=
  zone.monthBegin_firstDay month

/-- Shifted beginnings of months are in the order of the months. -/
theorem toLocal_monthBegin_lt {month next : Int} (before : month < next) :
    toLocal zone (zone.monthBegin month) < toLocal zone (zone.monthBegin next) := by
  have upper := (toLocal_monthBegin_bounds zone month).2
  have length := clockMonthStart_add_le month
  have ordered : clockMonthStart (month + 1) ≤ clockMonthStart next :=
    clockMonthStart_strictMono.monotone before
  have lower := (toLocal_monthBegin_bounds zone next).1
  unfold seconds at upper length
  linarith

/-- Different months have different shifted beginnings. -/
theorem toLocal_monthBegin_inj {month other : Int} :
    toLocal zone (zone.monthBegin month) = toLocal zone (zone.monthBegin other) ↔
      month = other := by
  constructor
  · intro same
    by_contra different
    rcases lt_or_gt_of_ne different with before | after
    · exact (toLocal_monthBegin_lt zone before).ne same
    · exact (toLocal_monthBegin_lt zone after).ne' same
  · rintro rfl
    rfl

/-- Beginnings are the same exactly if they are of the same local period. -/
theorem startOfMonth_eq_iff (other : Date) :
    startOfMonth zone date = startOfMonth zone other ↔
      zone.monthIndex date = zone.monthIndex other := by
  rw [startOfMonth_eq, startOfMonth_eq, toLocal_monthBegin_inj]

theorem startOfYear_eq_iff (other : Date) :
    startOfYear zone date = startOfYear zone other ↔
      yearIndex zone date = yearIndex zone other := by
  rw [startOfYear_eq, startOfYear_eq, toLocal_monthBegin_inj]

theorem startOfPreviousMonth_eq_iff (other : Date) :
    startOfPreviousMonth zone date = startOfPreviousMonth zone other ↔
      zone.monthIndex date = zone.monthIndex other := by
  rw [startOfPreviousMonth_eq, startOfPreviousMonth_eq, toLocal_monthBegin_inj, sub_left_inj]

/-- In every zone the computed boundaries are ordered. -/
theorem startOfPreviousMonth_lt_startOfMonth :
    startOfPreviousMonth zone date < startOfMonth zone date := by
  rw [startOfPreviousMonth_eq, startOfMonth_eq]
  exact toLocal_monthBegin_lt zone (by omega)

/-- The year begins no later than the month. -/
theorem startOfYear_le_startOfMonth : startOfYear zone date ≤ startOfMonth zone date := by
  rw [startOfYear_eq, startOfMonth_eq]
  rcases (yearIndex_le_monthIndex zone date).eq_or_lt with january | later
  · rw [january]
  · exact (toLocal_monthBegin_lt zone later).le

/-- The beginning of the previous month is computed as a past instant: an offset
is less than the days left of that month. -/
theorem startOfPreviousMonth_lt : startOfPreviousMonth zone date < date := by
  have upper := (toLocal_monthBegin_bounds zone (zone.monthIndex date - 1)).2
  have length := clockMonthStart_add_le (zone.monthIndex date - 1)
  have begun := (clockMonthStart_le_iff (zone.monthIndex date) _).mpr le_rfl
  have bounded := zone.offset_bounded date
  rw [startOfPreviousMonth_eq]
  rw [Int.sub_add_cancel] at length
  unfold seconds at upper length begun
  linarith

section SameMonth

variable {zone} {earlier later : Date} (sameMonth : zone.monthIndex earlier = zone.monthIndex later)
include sameMonth

/-- Within one local month all boundaries stay where they are. -/
theorem startOfMonth_congr : startOfMonth zone earlier = startOfMonth zone later := by
  rw [startOfMonth_eq, startOfMonth_eq, sameMonth]

theorem startOfYear_congr : startOfYear zone earlier = startOfYear zone later := by
  rw [startOfYear_eq, startOfYear_eq, yearIndex, yearIndex, sameMonth]

theorem startOfPreviousMonth_congr :
    startOfPreviousMonth zone earlier = startOfPreviousMonth zone later := by
  rw [startOfPreviousMonth_eq, startOfPreviousMonth_eq, sameMonth]

end SameMonth
end ResponseTracker
