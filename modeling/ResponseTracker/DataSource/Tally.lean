import ResponseTracker.DataSource.DataManager
import ResponseTracker.Std.Window

/-!
# What the totals count

The purpose of `loadPoints` is a tally: every dated entry, a response of weight
one or a manual grant of its points, counts toward the year, the month and the
month before by the half-open windows between three bounds. `loadPoints_tally`
relates the program's totals to the tally of all entries. They differ by two
terms: grants dated in the year before the current month are missing from the
year, and responses dated exactly at the beginning of the month are counted in
the month before as well.
-/

namespace ResponseTracker

open Window DataManager

/-- The grants the counting loop reaches: those before the first malformed entry. -/
def readGrants : List PresetEntry → List (Date × Int)
  | [] => []
  | entry :: rest =>
      match entry.grant? with
      | some grant => grant :: readGrants rest
      | none => []

/-- Every stored grant has a date and points. -/
def WellFormed (entries : List PresetEntry) : Prop := ∀ entry ∈ entries, entry.grant?.isSome

instance : DecidablePred WellFormed := fun entries =>
  inferInstanceAs (Decidable (∀ entry ∈ entries, entry.grant?.isSome))

/-- The dates of the stored responses, each of weight one. -/
def responseEntries (tables : Tables) : List (Date × Int) :=
  tables.responses.map fun row => (row.value.date, 1)

/-- The totals of dated entries over the windows between three bounds. -/
noncomputable def tally (startOfYear startOfPreviousMonth startOfMonth : Date)
    (entries : List (Date × Int)) : Points where
  currentYear := total (Set.Ici startOfYear) entries
  currentMonth := total (Set.Ici startOfMonth) entries
  previousMonth := total (Set.Ico startOfPreviousMonth startOfMonth) entries
  all := total Set.univ entries

/-! ## The grants that are read -/

/-- Behind well-formed entries the others are read. -/
theorem readGrants_append (entries more : List PresetEntry) (wellFormed : WellFormed entries) :
    readGrants (entries ++ more) = readGrants entries ++ readGrants more := by
  induction entries with
  | nil => rfl
  | cons entry rest ih =>
      have restFormed : WellFormed rest := fun other member =>
        wellFormed other (List.mem_cons_of_mem _ member)
      obtain ⟨grant, formed⟩ := Option.isSome_iff_exists.mp (wellFormed entry List.mem_cons_self)
      simp [readGrants, formed, ih restFormed]

/-- A malformed entry hides everything after it. -/
theorem readGrants_append_of_not (entries more : List PresetEntry)
    (malformed : ¬ WellFormed entries) :
    readGrants (entries ++ more) = readGrants entries := by
  induction entries with
  | nil => exact absurd (fun _ member => absurd member List.not_mem_nil) malformed
  | cons entry rest ih =>
      cases formed : entry.grant? with
      | none => simp [readGrants, formed]
      | some grant =>
          have restMalformed : ¬ WellFormed rest := by
            intro restFormed
            refine malformed fun other member => ?_
            rcases List.mem_cons.mp member with rfl | later
            · simp [formed]
            · exact restFormed other later
          simp [readGrants, formed, ih restMalformed]

/-- The grants of a well-formed list, one for each entry. -/
theorem readGrants_map {entries : List PresetEntry} (wellFormed : WellFormed entries) :
    (readGrants entries).map some = entries.map PresetEntry.grant? := by
  induction entries with
  | nil => rfl
  | cons entry rest ih =>
      have restFormed : WellFormed rest := fun other member =>
        wellFormed other (List.mem_cons_of_mem _ member)
      obtain ⟨grant, formed⟩ := Option.isSome_iff_exists.mp (wellFormed entry List.mem_cons_self)
      simp [readGrants, formed, ih restFormed]

/-- An entry whose date or points cannot be read is no grant. -/
theorem grant?_eq_none {entry : PresetEntry}
    (malformed : ∀ date points, entry.date? "date_added" = some date →
      entry.int? "points" = some points → False) : entry.grant? = none := by
  unfold PresetEntry.grant?
  cases dated : entry.date? "date_added" with
  | none => rfl
  | some date =>
      cases counted : entry.int? "points" with
      | none => rfl
      | some points => exact absurd counted (fun found => malformed date points dated found)

/-- The loop adds to each total what the read grants weigh in its window. The
year's total uses the window of the month. -/
theorem countGrants_eq (startOfMonth startOfPreviousMonth : Date) (totals : Points)
    (entries : List PresetEntry) :
    countGrants startOfMonth startOfPreviousMonth totals entries =
      { currentYear := totals.currentYear + total (Set.Ici startOfMonth) (readGrants entries)
        currentMonth := totals.currentMonth + total (Set.Ici startOfMonth) (readGrants entries)
        previousMonth := totals.previousMonth +
          total (Set.Ico startOfPreviousMonth startOfMonth) (readGrants entries)
        all := totals.all + total Set.univ (readGrants entries) } := by
  induction entries generalizing totals with
  | nil => simp [countGrants, readGrants]
  | cons entry rest ih =>
      rw [countGrants]
      split
      · next date points dated counted =>
          have read : readGrants (entry :: rest) = (date, points) :: readGrants rest := by
            simp [readGrants, PresetEntry.grant?, dated, counted]
          rw [ih, read]
          simp only [total_cons, Set.mem_Ici, Set.mem_Ico, Set.mem_univ, if_true, ge_iff_le]
          ext
          case currentYear => split_ifs <;> ring
          case currentMonth => split_ifs <;> ring
          case previousMonth => split_ifs <;> ring
          case all => ring
      · next malformed =>
          have read : readGrants (entry :: rest) = [] := by
            simp [readGrants, grant?_eq_none malformed]
          simp [read]

/-! ## The responses that are counted -/

/-- A count since a bound is the weight of the responses from it on. -/
theorem countSince_eq_total (bound : Date) (responses : List Response) :
    countSince bound responses =
      total (Set.Ici bound) (responses.map fun response => (response.date, 1)) := by
  rw [countSince, total_units Response.date (fun date => decide (date ≥ bound)) (by simp)]

/-- A count of stored responses since a bound is the weight of those from it on. -/
theorem countSince_eq (bound : Date) (tables : Tables) :
    countSince bound (tables.responses.map ResponseRow.value) =
      total (Set.Ici bound) (responseEntries tables) := by
  rw [countSince_eq_total, List.map_map]
  rfl

/-- A count between two bounds is the weight of those from the one up to the other. -/
theorem countBetween_eq (first last : Date) (tables : Tables) :
    countBetween first last (tables.responses.map ResponseRow.value) =
      total (Set.Icc first last) (responseEntries tables) := by
  rw [countBetween, List.filter_map, List.length_map, responseEntries,
    total_units (fun row : ResponseRow => row.value.date)
      (fun date => decide (date ≥ first ∧ date ≤ last)) (by simp)]
  rfl

/-- The number of stored responses is the weight of all of them. -/
theorem length_eq_total (tables : Tables) :
    ((tables.responses.map ResponseRow.value).length : Int) =
      total Set.univ (responseEntries tables) := by
  rw [responseEntries,
    total_units (fun row : ResponseRow => row.value.date) (fun _ => true) (by simp)]
  simp

/-! ## The totals -/

/-- The clamped beginnings of the year, the previous month and the month. -/
def yearBound (device : Device) (lastReset : Option Date) (clock : Date) : Date :=
  clamped lastReset (startOfYear device.timeZone clock)

/-- The clamped beginning of the previous month. -/
def previousMonthBound (device : Device) (lastReset : Option Date) (clock : Date) : Date :=
  clamped lastReset (startOfPreviousMonth device.timeZone clock)

/-- The clamped beginning of the month. -/
def monthBound (device : Device) (lastReset : Option Date) (clock : Date) : Date :=
  clamped lastReset (startOfMonth device.timeZone clock)

section Bounds

variable (device : Device) (lastReset : Option Date) (now : Date)

/-- The year is counted from no later than the month. -/
theorem yearBound_le_monthBound :
    yearBound device lastReset now ≤ monthBound device lastReset now :=
  clamped_mono lastReset (startOfYear_le_startOfMonth device.timeZone now)

/-- The previous month is counted from no later than the month. -/
theorem previousMonthBound_le_monthBound :
    previousMonthBound device lastReset now ≤ monthBound device lastReset now :=
  clamped_mono lastReset (startOfPreviousMonth_lt_startOfMonth device.timeZone now).le

end Bounds

variable (device : Device) (defaults : UserDefaults) (tables : Tables)

/-- The totals as weights of grants and of responses over the windows the
program uses for each. -/
theorem loadPoints_eq (yearClock previousMonthClock monthClock : Date) :
    let grants := readGrants (getPresetPoints defaults)
    let startOfYear := yearBound device defaults.lastPointReset yearClock
    let startOfPreviousMonth := previousMonthBound device defaults.lastPointReset previousMonthClock
    let startOfMonth := monthBound device defaults.lastPointReset monthClock
    loadPoints device defaults tables yearClock previousMonthClock monthClock =
      { currentYear := total (Set.Ici startOfMonth) grants +
          total (Set.Ici startOfYear) (responseEntries tables)
        currentMonth := total (Set.Ici startOfMonth) grants +
          total (Set.Ici startOfMonth) (responseEntries tables)
        previousMonth := total (Set.Ico startOfPreviousMonth startOfMonth) grants +
          total (Set.Icc startOfPreviousMonth startOfMonth) (responseEntries tables)
        all := total Set.univ grants + total Set.univ (responseEntries tables) } := by
  simp only [loadPoints, countGrants_eq, countSince_eq, countBetween_eq, length_eq_total, zero_add,
    yearBound, previousMonthBound, monthBound, getLastClearPoints]

/-- The totals refine the tally of all entries, up to the grants missing from
the year and the responses counted in both months. -/
theorem loadPoints_tally (now : Date) :
    let grants := readGrants (getPresetPoints defaults)
    let startOfYear := yearBound device defaults.lastPointReset now
    let startOfPreviousMonth := previousMonthBound device defaults.lastPointReset now
    let startOfMonth := monthBound device defaults.lastPointReset now
    let counted := tally startOfYear startOfPreviousMonth startOfMonth
      (grants ++ responseEntries tables)
    loadPoints device defaults tables now now now =
      { currentYear := counted.currentYear - total (Set.Ico startOfYear startOfMonth) grants
        currentMonth := counted.currentMonth
        previousMonth := counted.previousMonth + total {startOfMonth} (responseEntries tables)
        all := counted.all } := by
  intro grants startOfYear startOfPreviousMonth startOfMonth counted
  have yearSplit := total_Ico_add_Ici grants
    (yearBound_le_monthBound device defaults.lastPointReset now)
  have closing := total_Icc (responseEntries tables)
    (previousMonthBound_le_monthBound device defaults.lastPointReset now)
  rw [loadPoints_eq]
  ext
  case currentYear =>
    simp only [counted, tally, total_append]
    linarith
  case currentMonth => simp only [counted, tally, total_append, startOfMonth, grants]
  case previousMonth =>
    simp only [counted, tally, total_append]
    linarith
  case all => simp only [counted, tally, total_append, grants]

end ResponseTracker
