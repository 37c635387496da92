import ResponseTracker.Std.Gregorian
import Mathlib.Tactic.Linarith

/-!
# Dates, time zones and calendar components

What the program uses of Foundation's `Date`, `TimeZone` and `Calendar`. A time
zone is any bounded offset function, with the instants `Calendar.date(from:)`
answers for the beginnings of its months. `Regular` says of a zone that its
months follow one another, each from the instant so answered;
`regular_fixed` shows this of the zones of constant offset.
-/

namespace ResponseTracker

/-- An instant in nanoseconds since 1970-01-01 00:00 GMT. Realm stores dates
with this resolution. -/
abbrev Date := Int

/-- A number of seconds as a difference of dates. -/
def seconds (count : Int) : Int := count * 1000000000

/-- The reading of a clock that started at 1970-01-01 00:00 when a month begins. -/
def clockMonthStart (month : Int) : Int := Gregorian.firstDay month * seconds 86400

/-- The month shown by a clock reading. -/
def clockMonth (clock : Int) : Int := Gregorian.monthOf (clock / seconds 86400)

/-- A clock reading is in a month or later exactly from its beginning on. -/
theorem clockMonthStart_le_iff (month clock : Int) :
    clockMonthStart month ≤ clock ↔ month ≤ clockMonth clock := by
  unfold clockMonthStart clockMonth
  rw [← Gregorian.firstDay_le_iff]
  exact (Int.le_ediv_iff_mul_le (by decide)).symm

/-- Every month has four weeks at least. -/
theorem clockMonthStart_add_le (month : Int) :
    clockMonthStart month + seconds (28 * 86400) ≤ clockMonthStart (month + 1) := by
  have length := Gregorian.firstDay_add_le month
  unfold clockMonthStart seconds
  omega

/-- Months begin in their order. -/
theorem clockMonthStart_strictMono : StrictMono clockMonthStart :=
  strictMono_int_of_lt_succ fun month => by
    have length := clockMonthStart_add_le month
    unfold seconds at length
    omega

/-- A zone of local time. `secondsFromGMT` is its offset at an instant and
`monthBegin` the instant at which a month begins: its local midnight or, if the
clock skips that, a later time of its first day. -/
structure TimeZone where
  secondsFromGMT : Date → Int
  monthBegin : Int → Date
  offset_bounded : ∀ date, -64800 ≤ secondsFromGMT date ∧ secondsFromGMT date ≤ 64800
  monthBegin_firstDay : ∀ month,
    clockMonthStart month ≤ monthBegin month + seconds (secondsFromGMT (monthBegin month)) ∧
      monthBegin month + seconds (secondsFromGMT (monthBegin month)) <
        clockMonthStart month + seconds 86400

/-- The calendar fields a component request can name. -/
inductive CalendarUnit where
  | year
  | month
deriving DecidableEq

/-- The requested calendar fields; a field that was not requested is absent. -/
@[ext]
structure DateComponents where
  year : Option Int := none
  month : Option Int := none
deriving DecidableEq

namespace TimeZone

/-- The zone with one offset at all instants. -/
def fixed (offset : Int) (bounded : -64800 ≤ offset ∧ offset ≤ 64800) : TimeZone where
  secondsFromGMT _ := offset
  monthBegin month := clockMonthStart month - seconds offset
  offset_bounded _ := bounded
  monthBegin_firstDay _ := by
    rw [Int.sub_add_cancel]
    exact ⟨le_rfl, lt_add_of_pos_right _ (by decide)⟩

variable (zone : TimeZone)

/-- The index of the local month of an instant. -/
def monthIndex (date : Date) : Int := clockMonth (date + seconds (zone.secondsFromGMT date))

/-- `Calendar.dateComponents(_:from:)`: the local fields of an instant. -/
def dateComponents (units : List CalendarUnit) (date : Date) : DateComponents where
  year := if .year ∈ units then some (Gregorian.year (zone.monthIndex date)) else none
  month := if .month ∈ units then some (Gregorian.monthNumber (zone.monthIndex date)) else none

/-- `Calendar.date(from:)`: the beginning of the first day the fields denote. A
missing field counts as one, and a month number outside the year rolls over. -/
def date (components : DateComponents) : Date :=
  zone.monthBegin (Gregorian.monthIndex (components.year.getD 1) (components.month.getD 1))

/-- A local month has begun exactly if it is not after the current one. -/
def Regular : Prop := ∀ month date, zone.monthBegin month ≤ date ↔ month ≤ zone.monthIndex date

/-- A constant offset keeps months in one piece. -/
theorem regular_fixed (offset : Int) (bounded : -64800 ≤ offset ∧ offset ≤ 64800) :
    (fixed offset bounded).Regular := by
  intro month date
  rw [monthIndex, ← clockMonthStart_le_iff]
  exact sub_le_iff_le_add

/-- A month's beginning lies in the month. -/
theorem monthIndex_monthBegin (month : Int) : zone.monthIndex (zone.monthBegin month) = month := by
  obtain ⟨begun, firstDay⟩ := zone.monthBegin_firstDay month
  have oneDay : seconds 86400 ≤ seconds (28 * 86400) := by decide
  have notNext : ¬ clockMonthStart (month + 1) ≤
      zone.monthBegin month + seconds (zone.secondsFromGMT (zone.monthBegin month)) := by
    have length := clockMonthStart_add_le month
    linarith
  rw [clockMonthStart_le_iff] at begun notNext
  unfold monthIndex
  omega

/-- In a regular zone the month never goes back. -/
theorem Regular.monthIndex_mono {zone : TimeZone} (regular : zone.Regular) {earlier later : Date}
    (ordered : earlier ≤ later) : zone.monthIndex earlier ≤ zone.monthIndex later := by
  rw [← regular]
  exact le_trans ((regular _ _).mpr le_rfl) ordered

end TimeZone
end ResponseTracker
