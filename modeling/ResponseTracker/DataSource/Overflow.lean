import ResponseTracker.DataSource.Tally
import ResponseTracker.Std.Checked

/-!
# Totals of a machine integer

Swift traps when an addition of two `Int` leaves the 64-bit range.
`loadPoints?` and `increaseCurrent?` are the counting with such additions. They
answer what the unbounded counting answers, exactly if every accumulator stays
in range (`loadPoints?_eq_some_iff`).
-/

namespace ResponseTracker

open Checked DataManager Window

/-- `increaseCurrent(by:)`, with additions that trap. -/
def Points.increaseCurrent? (self : Points) (points : Int) : Option Points := do
  let all ← add? 64 self.all points
  let currentMonth ← add? 64 self.currentMonth points
  let currentYear ← add? 64 self.currentYear points
  some { self with all, currentMonth, currentYear }

namespace DataManager

/-- `if … { total += points }` -/
def addWhen (selected : Bool) (total points : Int) : Option Int :=
  if selected then add? 64 total points else some total

/-- `countGrants` with additions that trap. -/
def countGrants? (startOfMonth startOfPreviousMonth : Date) (totals : Points) :
    List PresetEntry → Option Points
  | [] => some totals
  | entry :: rest =>
      match entry.date? "date_added", entry.int? "points" with
      | some date, some points => do
          let yearlyResponses ← addWhen (date ≥ startOfMonth) totals.currentYear points
          let monthyResponse ← addWhen (date ≥ startOfMonth) totals.currentMonth points
          let previousMonth ← addWhen (date ≥ startOfPreviousMonth ∧ date < startOfMonth)
            totals.previousMonth points
          let allResponsesCount ← add? 64 totals.all points
          countGrants? startOfMonth startOfPreviousMonth
            ⟨yearlyResponses, monthyResponse, previousMonth, allResponsesCount⟩ rest
      | _, _ => some totals

/-- `loadPoints` with additions that trap. -/
def loadPoints? (device : Device) (defaults : UserDefaults) (tables : Tables)
    (yearClock previousMonthClock monthClock : Date) : Option Points := do
  let lastReset := getLastClearPoints defaults
  let startOfYear := clamped lastReset (startOfYear device.timeZone yearClock)
  let startOfPreviousMonth :=
    clamped lastReset (startOfPreviousMonth device.timeZone previousMonthClock)
  let startOfMonth := clamped lastReset (startOfMonth device.timeZone monthClock)
  let totals ← countGrants? startOfMonth startOfPreviousMonth {} (getPresetPoints defaults)
  let allResponses := tables.responses.map ResponseRow.value
  let allResponsesCount ← add? 64 totals.all allResponses.length
  let yearlyResponses ← add? 64 totals.currentYear (countSince startOfYear allResponses)
  let monthyResponse ← add? 64 totals.currentMonth (countSince startOfMonth allResponses)
  let previousMonth ← add? 64 totals.previousMonth
    (countBetween startOfPreviousMonth startOfMonth allResponses)
  some ⟨yearlyResponses, monthyResponse, previousMonth, allResponsesCount⟩

/-- `getPoints` with additions that trap. -/
def getPoints? (device : Device) (stores : Stores) (now : Date) : Option Points :=
  loadPoints? device stores.defaults stores.tables now now now

end DataManager

/-! ## The four accumulators -/

/-- The points of the grants whose dates are selected, in the order of the list. -/
def admitted (selects : Date → Bool) (grants : List (Date × Int)) : List Int :=
  (grants.filter fun grant => selects grant.1).map Prod.snd

/-- An accumulator adds the points of a grant when its date is selected. -/
theorem sum?_admitted_cons (selects : Date → Bool) (total points : Int) (date : Date)
    (rest : List (Date × Int)) :
    sum? 64 total (admitted selects ((date, points) :: rest)) =
      (addWhen (selects date) total points).bind fun first =>
        sum? 64 first (admitted selects rest) := by
  cases selected : selects date with
  | true => simp [admitted, addWhen, selected, sum?_cons]
  | false => simp [admitted, addWhen, selected]

/-- The loop runs four accumulators, each over the grants of its window. -/
theorem countGrants?_eq_some_iff (startOfMonth startOfPreviousMonth : Date)
    (totals counted : Points) (entries : List PresetEntry) :
    countGrants? startOfMonth startOfPreviousMonth totals entries = some counted ↔
      sum? 64 totals.currentYear
          (admitted (fun date => date ≥ startOfMonth) (readGrants entries)) =
        some counted.currentYear ∧
      sum? 64 totals.currentMonth
          (admitted (fun date => date ≥ startOfMonth) (readGrants entries)) =
        some counted.currentMonth ∧
      sum? 64 totals.previousMonth
          (admitted (fun date => date ≥ startOfPreviousMonth ∧ date < startOfMonth)
            (readGrants entries)) =
        some counted.previousMonth ∧
      sum? 64 totals.all (admitted (fun _ => true) (readGrants entries)) = some counted.all := by
  induction entries generalizing totals with
  | nil =>
      simp only [countGrants?, readGrants, admitted, List.filter_nil, List.map_nil, sum?_nil,
        Option.some.injEq]
      exact Points.ext_iff
  | cons entry rest ih =>
      rw [countGrants?]
      split
      · next date points dated counted =>
          have read : readGrants (entry :: rest) = (date, points) :: readGrants rest := by
            simp [readGrants, PresetEntry.grant?, dated, counted]
          simp only [read, sum?_admitted_cons, Option.bind_eq_bind, Option.bind_eq_some_iff, ih]
          constructor
          · rintro ⟨year, addedYear, month, addedMonth, previous, addedPrevious, all, addedAll,
              years, months, previousMonths, alls⟩
            exact ⟨⟨year, addedYear, years⟩, ⟨month, addedMonth, months⟩,
              ⟨previous, addedPrevious, previousMonths⟩, all, addedAll, alls⟩
          · rintro ⟨⟨year, addedYear, years⟩, ⟨month, addedMonth, months⟩,
              ⟨previous, addedPrevious, previousMonths⟩, all, addedAll, alls⟩
            exact ⟨year, addedYear, month, addedMonth, previous, addedPrevious, all, addedAll,
              years, months, previousMonths, alls⟩
      · next malformed =>
          have read : readGrants (entry :: rest) = [] := by
            simp [readGrants, grant?_eq_none malformed]
          simp only [read, admitted, List.filter_nil, List.map_nil, sum?_nil, Option.some.injEq]
          exact Points.ext_iff

/-- The unbounded loop adds the same points. -/
theorem countGrants_eq_sums (startOfMonth startOfPreviousMonth : Date)
    (entries : List PresetEntry) :
    countGrants startOfMonth startOfPreviousMonth {} entries =
      { currentYear := (admitted (fun date => date ≥ startOfMonth) (readGrants entries)).sum
        currentMonth := (admitted (fun date => date ≥ startOfMonth) (readGrants entries)).sum
        previousMonth := (admitted (fun date => date ≥ startOfPreviousMonth ∧ date < startOfMonth)
          (readGrants entries)).sum
        all := (admitted (fun _ => true) (readGrants entries)).sum } := by
  rw [countGrants_eq, total_eq_sum_filter (fun date => date ≥ startOfMonth) (by simp),
    total_eq_sum_filter (fun date => date ≥ startOfPreviousMonth ∧ date < startOfMonth) (by simp),
    total_eq_sum_filter (fun _ => true) (by simp)]
  simp only [zero_add]
  rfl

/-- The accumulator of a window fits after each grant and with the responses counted. -/
structure WindowFits (selects : Date → Bool) (grants : List (Date × Int)) (counted : Int) :
    Prop where
  eachGrant : SumsFit 64 0 (admitted selects grants)
  responses : Fits 64 ((admitted selects grants).sum + counted)

/-- The windows of the four totals, with the responses counted in each. The
year's grants are those of the month. -/
def windows (device : Device) (lastReset : Option Date) (tables : Tables)
    (yearClock previousMonthClock monthClock : Date) : List ((Date → Bool) × Int) :=
  let startOfYear := yearBound device lastReset yearClock
  let startOfPreviousMonth := previousMonthBound device lastReset previousMonthClock
  let startOfMonth := monthBound device lastReset monthClock
  let allResponses := tables.responses.map ResponseRow.value
  [(fun date => date ≥ startOfMonth, countSince startOfYear allResponses),
    (fun date => date ≥ startOfMonth, countSince startOfMonth allResponses),
    (fun date => date ≥ startOfPreviousMonth ∧ date < startOfMonth,
      countBetween startOfPreviousMonth startOfMonth allResponses),
    (fun _ => true, allResponses.length)]

/-- The four accumulators of the counting at given clock readings fit. -/
def TotalsFit (device : Device) (defaults : UserDefaults) (tables : Tables)
    (yearClock previousMonthClock monthClock : Date) : Prop :=
  ∀ window ∈ windows device defaults.lastPointReset tables yearClock previousMonthClock monthClock,
    WindowFits window.1 (readGrants (getPresetPoints defaults)) window.2

variable {device : Device} {defaults : UserDefaults} {tables : Tables}
  {yearClock previousMonthClock monthClock : Date} {points : Points}

/-- The counting that traps is the unbounded one, where all accumulators fit. -/
theorem loadPoints?_eq_some_iff :
    loadPoints? device defaults tables yearClock previousMonthClock monthClock = some points ↔
      TotalsFit device defaults tables yearClock previousMonthClock monthClock ∧
        loadPoints device defaults tables yearClock previousMonthClock monthClock = points := by
  simp only [loadPoints?, Option.bind_eq_bind, Option.bind_eq_some_iff, countGrants?_eq_some_iff,
    sum?_eq_some_iff, add?_eq_some_iff, zero_add, Option.some.injEq]
  rw [loadPoints, countGrants_eq_sums, Points.ext_iff, TotalsFit]
  simp only [windows, List.forall_mem_cons]
  constructor
  · rintro ⟨counted, ⟨⟨yearFits, years⟩, ⟨monthFits, months⟩, ⟨previousFits, previousMonths⟩,
      allFits, alls⟩, all, ⟨allTotal, rfl⟩, year, ⟨yearTotal, rfl⟩, month, ⟨monthTotal, rfl⟩,
      previous, ⟨previousTotal, rfl⟩, rfl⟩
    rw [← years] at yearTotal
    rw [← months] at monthTotal
    rw [← previousMonths] at previousTotal
    rw [← alls] at allTotal
    refine ⟨⟨⟨yearFits, yearTotal⟩, ⟨monthFits, monthTotal⟩, ⟨previousFits, previousTotal⟩,
      ⟨allFits, allTotal⟩, by simp⟩, ?_⟩
    exact ⟨congrArg (· + _) years, congrArg (· + _) months, congrArg (· + _) previousMonths,
      congrArg (· + _) alls⟩
  · rintro ⟨⟨yearFit, monthFit, previousFit, allFit, -⟩, year, month, previousMonth, all⟩
    exact ⟨⟨_, _, _, _⟩, ⟨⟨yearFit.eachGrant, rfl⟩, ⟨monthFit.eachGrant, rfl⟩,
      ⟨previousFit.eachGrant, rfl⟩, allFit.eachGrant, rfl⟩, _, ⟨allFit.responses, rfl⟩, _,
      ⟨yearFit.responses, rfl⟩, _, ⟨monthFit.responses, rfl⟩, _,
      ⟨previousFit.responses, rfl⟩, Points.ext year month previousMonth all⟩

/-- `loadPoints` returns exactly if its accumulators fit. -/
theorem loadPoints?_isSome_iff :
    (loadPoints? device defaults tables yearClock previousMonthClock monthClock).isSome ↔
      TotalsFit device defaults tables yearClock previousMonthClock monthClock := by
  rw [Option.isSome_iff_exists]
  simp [loadPoints?_eq_some_iff]

/-- What is answered at one instant is the unbounded counting, where it fits. -/
theorem getPoints?_eq_some_iff {stores : Stores} {now : Date} :
    getPoints? device stores now = some points ↔
      TotalsFit device stores.defaults stores.tables now now now ∧
        getPoints device stores now = points := loadPoints?_eq_some_iff

/-- Points that are added fit onto the three figures that grow. -/
theorem increaseCurrent?_eq_some_iff {self increased : Points} {value : Int} :
    self.increaseCurrent? value = some increased ↔
      (Fits 64 (self.all + value) ∧ Fits 64 (self.currentMonth + value) ∧
        Fits 64 (self.currentYear + value)) ∧ self.increaseCurrent value = increased := by
  simp only [Points.increaseCurrent?, Option.bind_eq_bind, Option.bind_eq_some_iff,
    add?_eq_some_iff, Option.some.injEq]
  constructor
  · rintro ⟨_, ⟨all, rfl⟩, _, ⟨month, rfl⟩, _, ⟨year, rfl⟩, rfl⟩
    exact ⟨⟨all, month, year⟩, rfl⟩
  · rintro ⟨⟨all, month, year⟩, rfl⟩
    exact ⟨_, ⟨all, rfl⟩, _, ⟨month, rfl⟩, _, ⟨year, rfl⟩, rfl⟩

/-- The accumulator of a window fits with a further grant, if that is selected. -/
def WindowTakes (selects : Date → Bool) (grants : List (Date × Int)) (counted : Int) (date : Date)
    (value : Int) : Prop :=
  selects date = true → Fits 64 ((admitted selects grants).sum + value) ∧
    Fits 64 ((admitted selects grants).sum + value + counted)

/-- A grant at the end fits exactly if it fits onto what the window selects before it. -/
theorem windowFits_append_iff {selects : Date → Bool} {grants : List (Date × Int)}
    {counted value : Int} {date : Date} (fits : WindowFits selects grants counted) :
    WindowFits selects (grants ++ [(date, value)]) counted ↔
      WindowTakes selects grants counted date value := by
  cases selected : selects date with
  | false =>
      have same : admitted selects (grants ++ [(date, value)]) = admitted selects grants := by
        simp [admitted, selected]
      refine ⟨fun _ admits => absurd admits (by simp [selected]), fun _ => ⟨?_, ?_⟩⟩
      · rw [same]
        exact fits.eachGrant
      · rw [same]
        exact fits.responses
  | true =>
      have more : admitted selects (grants ++ [(date, value)]) =
          admitted selects grants ++ [value] := by
        simp [admitted, selected]
      constructor
      · rintro ⟨eachGrant, responses⟩ -
        rw [more, sumsFit_append_singleton_iff, zero_add] at eachGrant
        rw [more, List.sum_append, List.sum_singleton] at responses
        exact ⟨eachGrant.2, responses⟩
      · intro takes
        obtain ⟨eachGrant, responses⟩ := takes selected
        refine ⟨?_, ?_⟩
        · rw [more, sumsFit_append_singleton_iff, zero_add]
          exact ⟨fits.eachGrant, eachGrant⟩
        · rwa [more, List.sum_append, List.sum_singleton]

/-- The four accumulators fit with a further grant. Behind a malformed entry it is
not read. -/
def TotalsTake (device : Device) (defaults : UserDefaults) (tables : Tables)
    (yearClock previousMonthClock monthClock date : Date) (value : Int) : Prop :=
  WellFormed (getPresetPoints defaults) →
    ∀ window ∈
        windows device defaults.lastPointReset tables yearClock previousMonthClock monthClock,
      WindowTakes window.1 (readGrants (getPresetPoints defaults)) window.2 date value

/-- A grant stored now fits exactly if the accumulators take it. -/
theorem totalsFit_manuallyAdd_iff {stores : Stores} (now : Date) (value : Int)
    (fits : TotalsFit device stores.defaults stores.tables yearClock previousMonthClock
      monthClock) :
    TotalsFit device (manuallyAdd now value stores).defaults stores.tables yearClock
        previousMonthClock monthClock ↔
      TotalsTake device stores.defaults stores.tables yearClock previousMonthClock monthClock now
        value := by
  by_cases wellFormed : WellFormed (getPresetPoints stores.defaults)
  · have read : readGrants (getPresetPoints (manuallyAdd now value stores).defaults) =
        readGrants (getPresetPoints stores.defaults) ++ [(now, value)] :=
      readGrants_append _ _ wellFormed
    rw [TotalsFit, read]
    constructor
    · intro after _ window member
      exact (windowFits_append_iff (fits window member)).mp (after window member)
    · intro takes window member
      exact (windowFits_append_iff (fits window member)).mpr (takes wellFormed window member)
  · have unread : readGrants (getPresetPoints (manuallyAdd now value stores).defaults) =
        readGrants (getPresetPoints stores.defaults) :=
      readGrants_append_of_not _ _ wellFormed
    refine ⟨fun _ formed => absurd formed wellFormed, fun _ => ?_⟩
    rw [TotalsFit, unread]
    exact fits

/-- Without negative grants, an accumulator that counts some of the responses fits
if the points of all grants and the number of all responses do together. -/
theorem windowFits_of_nonNegative {selects : Date → Bool} {grants : List (Date × Int)}
    {counted responses : Int} (nonNegative : ∀ grant ∈ grants, 0 ≤ grant.2) (atLeast : 0 ≤ counted)
    (atMost : counted ≤ responses) (fits : Fits 64 ((grants.map Prod.snd).sum + responses)) :
    WindowFits selects grants counted := by
  have weights : ∀ weight ∈ grants.map Prod.snd, 0 ≤ weight := by
    intro weight member
    obtain ⟨grant, read, rfl⟩ := List.mem_map.mp member
    exact nonNegative grant read
  have part : (admitted selects grants).Sublist (grants.map Prod.snd) :=
    List.filter_sublist.map Prod.snd
  have less := part.sum_le_sum weights
  have sum := List.sum_nonneg fun weight member => weights weight (part.subset member)
  have allGrants : Fits 64 (grants.map Prod.snd).sum :=
    fits.of_le (List.sum_nonneg weights) (le_add_of_nonneg_right (le_trans atLeast atMost))
  exact ⟨sumsFit_of_sublist weights part allGrants,
    fits.of_le (add_nonneg sum atLeast) (add_le_add less atMost)⟩

/-- Without negative grants, the accumulators fit at all readings of the clock if the
points of all grants and the number of all responses do together. -/
theorem totalsFit_iff_of_nonNegative
    (nonNegative : ∀ grant ∈ readGrants (getPresetPoints defaults), 0 ≤ grant.2) :
    TotalsFit device defaults tables yearClock previousMonthClock monthClock ↔
      Fits 64 (((readGrants (getPresetPoints defaults)).map Prod.snd).sum +
        tables.responses.length) := by
  have fewer : ∀ selects : Response → Bool,
      (((tables.responses.map ResponseRow.value).filter selects).length : Int) ≤
        tables.responses.length := by
    intro selects
    have most := List.length_filter_le selects (tables.responses.map ResponseRow.value)
    rw [List.length_map] at most
    exact Int.ofNat_le.mpr most
  simp only [TotalsFit, windows, List.forall_mem_cons, List.length_map]
  constructor
  · rintro ⟨-, -, -, all, -⟩
    simpa [admitted] using all.responses
  · intro fits
    exact ⟨windowFits_of_nonNegative nonNegative (Int.natCast_nonneg _) (fewer _) fits,
      windowFits_of_nonNegative nonNegative (Int.natCast_nonneg _) (fewer _) fits,
      windowFits_of_nonNegative nonNegative (Int.natCast_nonneg _) (fewer _) fits,
      windowFits_of_nonNegative nonNegative (Int.natCast_nonneg _) le_rfl fits, by simp⟩

/-- Without grants, the accumulators fit if the number of all responses does. -/
theorem totalsFit_iff_of_nil (nothing : getPresetPoints defaults = []) :
    TotalsFit device defaults tables yearClock previousMonthClock monthClock ↔
      Fits 64 tables.responses.length := by
  rw [totalsFit_iff_of_nonNegative (by simp [nothing, readGrants])]
  simp [nothing, readGrants]

end ResponseTracker
