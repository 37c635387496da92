import ResponseTracker.DataSource.Overflow
import Mathlib.Data.List.Induction

/-!
# Totals and the clock

`rollover` follows the totals of one store from a month into the next, and
`asOfOne_iff` tells for which clock readings within one call the totals are
those of a single instant. Both rest on the bounds being those of local months
and years, or of the reset where that is later.
-/

namespace ResponseTracker

open Window DataManager

/-! ## From one month into the next -/

/-- A grant that is read is stored. -/
theorem mem_readGrants {entries : List PresetEntry} {grant : Date × Int}
    (read : grant ∈ readGrants entries) : ∃ entry ∈ entries, entry.grant? = some grant := by
  induction entries with
  | nil => exact absurd read List.not_mem_nil
  | cons entry rest ih =>
      rw [readGrants] at read
      cases formed : entry.grant? with
      | none =>
          rw [formed] at read
          exact absurd read List.not_mem_nil
      | some first =>
          rw [formed] at read
          rcases List.mem_cons.mp read with rfl | later
          · exact ⟨entry, List.mem_cons_self, formed⟩
          · obtain ⟨other, stored, otherFormed⟩ := ih later
            exact ⟨other, List.mem_cons_of_mem _ stored, otherFormed⟩

/-- The month before the next month is this month. -/
theorem startOfPreviousMonth_next {zone : TimeZone} {now next : Date}
    (follows : zone.monthIndex next = zone.monthIndex now + 1) :
    startOfPreviousMonth zone next = startOfMonth zone now := by
  rw [startOfPreviousMonth_eq, startOfMonth_eq, follows, add_sub_cancel_right]

/-- What is counted this month is counted in the previous month when the next one
has come, provided that all of it is dated before that. -/
theorem previousMonth_next (device : Device) (defaults : UserDefaults) (tables : Tables)
    {now next : Date}
    (follows : device.timeZone.monthIndex next = device.timeZone.monthIndex now + 1)
    (responses : ∀ row ∈ tables.responses, row.value.date < startOfMonth device.timeZone next)
    (grants : ∀ entry ∈ getPresetPoints defaults, ∀ grant ∈ entry.grant?,
      grant.1 < startOfMonth device.timeZone next) :
    (loadPoints device defaults tables next next next).previousMonth =
      (loadPoints device defaults tables now now now).currentMonth := by
  have bound : previousMonthBound device defaults.lastPointReset next =
      monthBound device defaults.lastPointReset now := by
    rw [previousMonthBound, startOfPreviousMonth_next follows, monthBound]
  have notAfter : startOfMonth device.timeZone next ≤
      monthBound device defaults.lastPointReset next :=
    ((clamped_le_iff _ _ _).mp le_rfl).1
  simp only [loadPoints_eq, bound]
  congr 1
  · refine total_congr fun grant read => ?_
    obtain ⟨entry, stored, formed⟩ := mem_readGrants read
    exact and_iff_left (lt_of_lt_of_le (grants entry stored grant formed) notAfter)
  · refine total_congr fun entry counted => ?_
    obtain ⟨row, stored, rfl⟩ := List.mem_map.mp counted
    exact and_iff_left (lt_of_lt_of_le (responses row stored) notAfter).le

/-- In the next local month the previous month begins where this one began, and
what was counted this month is counted in the previous month then, provided that
all stored responses and grants are dated before the next month. The sums are
unbounded here; the program traps where they leave the range of `Int`. -/
theorem rollover (device : Device) (defaults : UserDefaults) (tables : Tables) {now next : Date}
    (follows : device.timeZone.monthIndex next = device.timeZone.monthIndex now + 1) :
    startOfPreviousMonth device.timeZone next = startOfMonth device.timeZone now ∧
      ((∀ row ∈ tables.responses, row.value.date < startOfMonth device.timeZone next) →
        (∀ entry ∈ getPresetPoints defaults, ∀ grant ∈ entry.grant?,
          grant.1 < startOfMonth device.timeZone next) →
        (loadPoints device defaults tables next next next).previousMonth =
          (loadPoints device defaults tables now now now).currentMonth) :=
  ⟨startOfPreviousMonth_next follows, previousMonth_next device defaults tables follows⟩

/-- Wherever both totals can be loaded, the month rolls over. -/
theorem loaded_previousMonth_next {device : Device} {defaults : UserDefaults} {tables : Tables}
    {now next : Date} {points after : Points}
    (follows : device.timeZone.monthIndex next = device.timeZone.monthIndex now + 1)
    (responses : ∀ row ∈ tables.responses, row.value.date < startOfMonth device.timeZone next)
    (grants : ∀ entry ∈ getPresetPoints defaults, ∀ grant ∈ entry.grant?,
      grant.1 < startOfMonth device.timeZone next)
    (loadedNow : loadPoints? device defaults tables now now now = some points)
    (loadedNext : loadPoints? device defaults tables next next next = some after) :
    after.previousMonth = points.currentMonth := by
  obtain ⟨-, rfl⟩ := loadPoints?_eq_some_iff.mp loadedNow
  obtain ⟨-, rfl⟩ := loadPoints?_eq_some_iff.mp loadedNext
  exact previousMonth_next device defaults tables follows responses grants

/-- From December 1970 to January 1971, with a response and a grant of December. -/
theorem rollover_december :
    let device := Device.gmt ""
    let tables := Tables.empty.insertResponse ⟨"7", "", seconds (340 * 86400)⟩
    let defaults : UserDefaults :=
      { presetPoints := some (.archive [.grant (seconds (350 * 86400)) 3])
        lastPointReset := some (seconds (336 * 86400)) }
    (loadPoints device defaults tables (seconds (366 * 86400)) (seconds (366 * 86400))
        (seconds (366 * 86400))).previousMonth =
      (loadPoints device defaults tables (seconds (360 * 86400)) (seconds (360 * 86400))
        (seconds (360 * 86400))).currentMonth := by
  intro device tables defaults
  refine (rollover device defaults tables (by decide +kernel)).2 ?_ ?_
  · intro row stored
    obtain rfl := List.mem_singleton.mp stored
    decide +kernel
  · intro entry stored grant formed
    obtain rfl := List.mem_singleton.mp stored
    obtain rfl := Option.some.inj formed
    decide +kernel

/-! ## Readings of one instant -/

/-- A reset hides where two beginnings differ. -/
def Hides (lastReset : Option Date) (start other : Date) : Prop :=
  ∃ reset ∈ lastReset, start ≤ reset ∧ other ≤ reset

/-- A reading for the year and one for the month in the year and the month of an
instant, or before the reset with them. -/
structure ReadsAs (zone : TimeZone) (lastReset : Option Date)
    (yearClock monthClock instant : Date) : Prop where
  year : yearIndex zone yearClock = yearIndex zone instant ∨
    Hides lastReset (startOfYear zone yearClock) (startOfYear zone instant)
  month : zone.monthIndex monthClock = zone.monthIndex instant ∨
    Hides lastReset (startOfMonth zone monthClock) (startOfMonth zone instant)

/-- A reading for the previous month in the month of an instant, or with both
previous months beginning before the reset. -/
def PreviousReadsAs (zone : TimeZone) (lastReset : Option Date) (clock instant : Date) : Prop :=
  zone.monthIndex clock = zone.monthIndex instant ∨
    Hides lastReset (startOfPreviousMonth zone clock) (startOfPreviousMonth zone instant)

/-- Whatever is stored, the totals are those at one of the three readings. -/
def LoadsAsOfOne (device : Device) (lastReset : Option Date)
    (yearClock previousMonthClock monthClock : Date) : Prop :=
  ∀ stores : Stores, stores.defaults.lastPointReset = lastReset →
    ∃ instant ∈ [yearClock, previousMonthClock, monthClock],
      loadPoints device stores.defaults stores.tables yearClock previousMonthClock monthClock =
        getPoints device stores instant

/-- Whatever an emergency holds, its points are those at one of the two readings. -/
def CountsAsOfOne (device : Device) (lastReset : Option Date) (yearClock monthClock : Date) :
    Prop :=
  ∀ defaults : UserDefaults, defaults.lastPointReset = lastReset → ∀ emergency : Emergency,
    ∃ instant ∈ [yearClock, monthClock],
      emergency.getPoints device defaults yearClock monthClock =
        emergency.getPoints device defaults instant instant

section Bounds

variable {device : Device} {lastReset : Option Date}
  {yearClock previousMonthClock monthClock clock instant : Date}

theorem readsAs_iff :
    ReadsAs device.timeZone lastReset yearClock monthClock instant ↔
      yearBound device lastReset yearClock = yearBound device lastReset instant ∧
        monthBound device lastReset monthClock = monthBound device lastReset instant := by
  rw [yearBound, yearBound, monthBound, monthBound, clamped_eq_iff, clamped_eq_iff,
    startOfYear_eq_iff, startOfMonth_eq_iff]
  exact ⟨fun reads => ⟨reads.year, reads.month⟩, fun bounds => ⟨bounds.1, bounds.2⟩⟩

theorem previousReadsAs_iff :
    PreviousReadsAs device.timeZone lastReset clock instant ↔
      previousMonthBound device lastReset clock = previousMonthBound device lastReset instant := by
  rw [previousMonthBound, previousMonthBound, clamped_eq_iff, startOfPreviousMonth_eq_iff]
  rfl

/-- The points of an emergency as weights of its responses. -/
theorem Emergency.getPoints_eq (defaults : UserDefaults) (emergency : Emergency) :
    let entries := emergency.responses.map fun response => (response.date, (1 : Int))
    emergency.getPoints device defaults yearClock monthClock =
      { currentYear := total (Set.Ici (yearBound device defaults.lastPointReset yearClock)) entries
        currentMonth :=
          total (Set.Ici (monthBound device defaults.lastPointReset monthClock)) entries
        previousMonth := 0
        all := emergency.responses.length } := by
  simp only [Emergency.getPoints, countSince_eq_total, yearBound, monthBound]

end Bounds

/-- Responses can be stored at any dates. -/
theorem exists_tables_dated (dates : List Date) :
    ∃ tables : Tables, responseEntries tables = dates.map fun date => (date, 1) := by
  induction dates using List.reverseRecOn with
  | nil => exact ⟨.empty, rfl⟩
  | append_singleton dates date ih =>
      obtain ⟨tables, dated⟩ := ih
      refine ⟨tables.insertResponse ⟨"", "", date⟩, ?_⟩
      rw [List.map_append, ← dated]
      simp [responseEntries, Tables.insertResponse]

section Exactness

variable {device : Device} {lastReset : Option Date}
  {yearClock previousMonthClock monthClock instant : Date}

/-- The bounds at given instants. -/
def boundDates (device : Device) (lastReset : Option Date) (instants : List Date) : List Date :=
  instants.flatMap fun instant => [yearBound device lastReset instant,
    previousMonthBound device lastReset instant, monthBound device lastReset instant]

theorem mem_boundDates (device : Device) (lastReset : Option Date) {instants : List Date}
    (member : instant ∈ instants) :
    yearBound device lastReset instant ∈ boundDates device lastReset instants ∧
      previousMonthBound device lastReset instant ∈ boundDates device lastReset instants ∧
      monthBound device lastReset instant ∈ boundDates device lastReset instants := by
  refine ⟨?_, ?_, ?_⟩
  all_goals
    refine List.mem_flatMap.mpr ⟨instant, member, ?_⟩
    simp

/-- Two bounds above which a store with a response at each of them counts the
same are one bound. -/
theorem eq_of_total_Ici {dates : List Date} {first next : Date} (firstDated : first ∈ dates)
    (nextDated : next ∈ dates)
    (same : total (Set.Ici first) (dates.map fun date => (date, 1)) =
      total (Set.Ici next) (dates.map fun date => (date, 1))) : first = next := by
  rw [← Set.inter_univ (Set.Ici first), ← Set.inter_univ (Set.Ici next)] at same
  exact le_antisymm (le_of_total_Ici_inter nextDated (Set.mem_univ _) same)
    (le_of_total_Ici_inter firstDated (Set.mem_univ _) same.symm)

/-- Likewise for two bounds of windows that are closed at the same later date. -/
theorem eq_of_total_Icc {dates : List Date} {first next last : Date} (firstDated : first ∈ dates)
    (nextDated : next ∈ dates) (ordered : next ≤ last)
    (same : total (Set.Icc first last) (dates.map fun date => (date, 1)) =
      total (Set.Icc next last) (dates.map fun date => (date, 1))) : first = next := by
  rw [← Set.Ici_inter_Iic, ← Set.Ici_inter_Iic] at same
  have notAfter := le_of_total_Ici_inter nextDated (Set.mem_Iic.mpr ordered) same
  exact le_antisymm notAfter
    (le_of_total_Ici_inter firstDated (Set.mem_Iic.mpr (le_trans notAfter ordered)) same.symm)

/-- The totals are as of one instant for every store exactly if one of the
readings has the bounds of all. -/
theorem loadsAsOfOne_iff :
    LoadsAsOfOne device lastReset yearClock previousMonthClock monthClock ↔
      ∃ instant ∈ [yearClock, previousMonthClock, monthClock],
        ReadsAs device.timeZone lastReset yearClock monthClock instant ∧
          PreviousReadsAs device.timeZone lastReset previousMonthClock instant := by
  simp only [readsAs_iff, previousReadsAs_iff]
  constructor
  · intro loads
    obtain ⟨tables, dated⟩ := exists_tables_dated
      (boundDates device lastReset [yearClock, previousMonthClock, monthClock])
    obtain ⟨instant, reading, same⟩ := loads ⟨⟨tables, none⟩, ⟨none, lastReset⟩⟩ rfl
    obtain ⟨yearDated, previousDated, monthDated⟩ := mem_boundDates device lastReset reading
    have unread : readGrants (getPresetPoints ⟨none, lastReset⟩) = [] := rfl
    rw [getPoints, Stores.tables_closed, loadPoints_eq, loadPoints_eq, unread, dated,
      Points.ext_iff] at same
    simp only [total_nil, zero_add] at same
    obtain ⟨year, month, previous, -⟩ := same
    have sameMonth :=
      eq_of_total_Ici (mem_boundDates device lastReset (by simp)).2.2 monthDated month
    refine ⟨instant, reading, ⟨?_, sameMonth⟩, ?_⟩
    · exact eq_of_total_Ici (mem_boundDates device lastReset (by simp)).1 yearDated year
    · rw [sameMonth] at previous
      exact eq_of_total_Icc (mem_boundDates device lastReset (by simp)).2.1 previousDated
        (previousMonthBound_le_monthBound device lastReset instant) previous
  · rintro ⟨instant, reading, ⟨year, month⟩, previous⟩ stores rfl
    refine ⟨instant, reading, ?_⟩
    rw [getPoints, loadPoints_eq, loadPoints_eq, year, month, previous]

/-- Likewise for the points of one emergency. -/
theorem countsAsOfOne_iff :
    CountsAsOfOne device lastReset yearClock monthClock ↔
      ∃ instant ∈ [yearClock, monthClock],
        ReadsAs device.timeZone lastReset yearClock monthClock instant := by
  simp only [readsAs_iff]
  constructor
  · intro counts
    let dates := boundDates device lastReset [yearClock, monthClock]
    obtain ⟨instant, reading, same⟩ := counts ⟨none, lastReset⟩ rfl
      ⟨"", dates.map fun date => ⟨"", "", date⟩⟩
    obtain ⟨yearDated, -, monthDated⟩ := mem_boundDates device lastReset reading
    have dated : (dates.map fun date => (⟨"", "", date⟩ : Response)).map
        (fun response => (response.date, (1 : Int))) = dates.map fun date => (date, 1) := by simp
    rw [Emergency.getPoints_eq, Emergency.getPoints_eq, dated, Points.ext_iff] at same
    obtain ⟨year, month, -, -⟩ := same
    exact ⟨instant, reading,
      eq_of_total_Ici (mem_boundDates device lastReset (by simp)).1 yearDated year,
      eq_of_total_Ici (mem_boundDates device lastReset (by simp)).2.2 monthDated month⟩
  · rintro ⟨instant, reading, year, month⟩ defaults rfl emergency
    refine ⟨instant, reading, ?_⟩
    rw [Emergency.getPoints_eq, Emergency.getPoints_eq, year, month]

end Exactness

/-- The totals of `loadPoints` and of every emergency are as of one instant
exactly if one of the readings of the call is in the months and the year of all,
where no reset hides the difference. -/
theorem asOfOne_iff (device : Device) (lastReset : Option Date)
    (yearClock previousMonthClock monthClock : Date) :
    (LoadsAsOfOne device lastReset yearClock previousMonthClock monthClock ↔
      ∃ instant ∈ [yearClock, previousMonthClock, monthClock],
        ReadsAs device.timeZone lastReset yearClock monthClock instant ∧
          PreviousReadsAs device.timeZone lastReset previousMonthClock instant) ∧
    (CountsAsOfOne device lastReset yearClock monthClock ↔
      ∃ instant ∈ [yearClock, monthClock],
        ReadsAs device.timeZone lastReset yearClock monthClock instant) :=
  ⟨loadsAsOfOne_iff, countsAsOfOne_iff⟩

/-- When the last reading falls into March and the others into February, the
previous month's total spans January and February. -/
theorem asOfOne_fails :
    ¬ ∀ yearClock previousMonthClock monthClock, yearClock ≤ previousMonthClock →
      previousMonthClock ≤ monthClock →
      LoadsAsOfOne (Device.gmt "") none yearClock previousMonthClock monthClock := by
  intro always
  obtain ⟨instant, reading, same⟩ := always (seconds (58 * 86400)) (seconds (58 * 86400))
    (seconds (59 * 86400)) le_rfl (by decide)
    ⟨⟨(Tables.empty.insertResponse ⟨"7", "", seconds (9 * 86400)⟩).insertResponse
      ⟨"8", "", seconds (40 * 86400)⟩, none⟩, {}⟩ rfl
  have previous := congrArg Points.previousMonth same
  simp only [List.mem_cons, List.not_mem_nil, or_false] at reading
  rcases reading with rfl | rfl | rfl <;> exact absurd previous (by decide +kernel)

end ResponseTracker
