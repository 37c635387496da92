import ResponseTracker.DataSource.Overflow

/-!
# Partition by months, and grants as responses

`monthsPartition_iff` says when the totals of this and the previous month
partition what is dated since the previous month, and `grantAsResponses_iff`
when a manual grant counts like as many responses. The defects are those of
`loadPoints_tally`: a response dated exactly at the beginning of the month, and
a grant dated in the year before the month.
-/

namespace ResponseTracker

open Window DataManager

variable (device : Device) (defaults : UserDefaults) (tables : Tables) (now : Date)

/-- The later of a period's beginning and the last reset. -/
def laterOf (lastReset : Option Date) (start : Date) : Date :=
  match lastReset with
  | some reset => max start reset
  | none => start

theorem clamped_eq_laterOf (lastReset : Option Date) (start : Date) :
    clamped lastReset start = laterOf lastReset start := by
  cases lastReset with
  | none => rfl
  | some reset =>
      simp only [clamped, laterOf]
      split
      · exact (max_eq_left (by order)).symm
      · exact (max_eq_right (by order)).symm

/-- The defaults with other stored grants. -/
def withPresets (defaults : UserDefaults) (entries : List PresetEntry) : UserDefaults :=
  { defaults with presetPoints := some (.archive entries) }

@[simp] theorem getPresetPoints_withPresets (entries : List PresetEntry) :
    getPresetPoints (withPresets defaults entries) = entries := rfl

@[simp] theorem withPresets_lastPointReset (entries : List PresetEntry) :
    (withPresets defaults entries).lastPointReset = defaults.lastPointReset := rfl

/-- The grants are all the totals read of what is stored for them. -/
theorem loadPoints_withPresets_self :
    loadPoints device (withPresets defaults (getPresetPoints defaults)) tables now now now =
      loadPoints device defaults tables now now now := rfl

/-- What a stored response contributes to a total: the total less the total
without the response. -/
def responseShare (field : Points → Int) (key : RowKey) : Int :=
  field (loadPoints device defaults tables now now now) -
    field (loadPoints device defaults (tables.deleteResponses (· == key)) now now now)

/-- What a stored grant contributes to a total. -/
def grantShare (field : Points → Int) (index : Nat) : Int :=
  field (loadPoints device defaults tables now now now) -
    field (loadPoints device (withPresets defaults ((getPresetPoints defaults).eraseIdx index))
      tables now now now)

/-- A weight counted in at most one of two totals, as a whole, and in exactly
one when it is due. -/
def CountedOnce (weight previous current : Int) (due : Prop) : Prop :=
  ((previous = 0 ∧ current = 0) ∨ (previous = weight ∧ current = 0) ∨
    (previous = 0 ∧ current = weight)) ∧ (due → previous + current = weight)

/-- The totals of this and the previous month partition the responses and
grants dated since the previous month, which begins no earlier than the reset. -/
structure MonthsPartition : Prop where
  responses : ∀ row ∈ tables.responses,
    CountedOnce 1 (responseShare device defaults tables now Points.previousMonth row.key)
      (responseShare device defaults tables now Points.currentMonth row.key)
      (laterOf defaults.lastPointReset (startOfPreviousMonth device.timeZone now) ≤ row.value.date)
  grants : ∀ index date points,
    (getPresetPoints defaults)[index]?.bind PresetEntry.grant? = some (date, points) →
    CountedOnce points (grantShare device defaults tables now Points.previousMonth index)
      (grantShare device defaults tables now Points.currentMonth index)
      (laterOf defaults.lastPointReset (startOfPreviousMonth device.timeZone now) ≤ date)
  total :
    let since := laterOf defaults.lastPointReset (startOfPreviousMonth device.timeZone now)
    let points := loadPoints device defaults tables now now now
    points.previousMonth + points.currentMonth =
      ((tables.responses.filter fun row => decide (since ≤ row.value.date)).length : Int) +
        (((readGrants (getPresetPoints defaults)).filter fun grant =>
          decide (since ≤ grant.1)).map Prod.snd).sum

section Shares

variable {device defaults tables now}

/-- A stored response is one of the entries, the others being those left by its deletion. -/
theorem responseEntries_perm_delete {row : ResponseRow} (stored : row ∈ tables.responses) :
    (responseEntries tables).Perm
      ((row.value.date, 1) :: responseEntries (tables.deleteResponses (· == row.key))) :=
  (RowTable.perm_cons_moveLastOver tables.responses_nodup stored).map _

theorem responseShare_previousMonth {row : ResponseRow} (stored : row ∈ tables.responses) :
    responseShare device defaults tables now Points.previousMonth row.key =
      if previousMonthBound device defaults.lastPointReset now ≤ row.value.date ∧
        row.value.date ≤ monthBound device defaults.lastPointReset now then 1 else 0 := by
  simp only [responseShare, loadPoints_eq]
  rw [total_perm (responseEntries_perm_delete stored), total_cons]
  simp only [Set.mem_Icc]
  split_ifs <;> ring

theorem responseShare_currentMonth {row : ResponseRow} (stored : row ∈ tables.responses) :
    responseShare device defaults tables now Points.currentMonth row.key =
      if monthBound device defaults.lastPointReset now ≤ row.value.date then 1 else 0 := by
  simp only [responseShare, loadPoints_eq]
  rw [total_perm (responseEntries_perm_delete stored), total_cons]
  simp only [Set.mem_Ici]
  split_ifs <;> ring

/-- A stored grant is one of the entries, the others being those left by its removal. -/
theorem readGrants_perm_eraseIdx {entries : List PresetEntry} (wellFormed : WellFormed entries)
    {index : Nat} {grant : Date × Int}
    (found : entries[index]?.bind PresetEntry.grant? = some grant) :
    (readGrants entries).Perm (grant :: readGrants (entries.eraseIdx index)) := by
  have rest : WellFormed (entries.eraseIdx index) := fun entry member =>
    wellFormed entry (List.mem_of_mem_eraseIdx member)
  obtain ⟨entry, stored, formed⟩ := Option.bind_eq_some_iff.mp found
  obtain ⟨within, rfl⟩ := List.getElem?_eq_some_iff.mp stored
  have split := (List.getElem_cons_eraseIdx_perm within).symm.map PresetEntry.grant?
  rw [List.map_cons, formed, ← readGrants_map wellFormed, ← readGrants_map rest, ← List.map_cons]
    at split
  exact (List.map_perm_map_iff (Option.some_injective _)).mp split

end Shares

/-- What one grant adds to the two months. -/
theorem loadPoints_perm_cons {entries : List PresetEntry} {grant : Date × Int}
    (split : (readGrants (getPresetPoints defaults)).Perm (grant :: readGrants entries)) :
    let startOfPreviousMonth := previousMonthBound device defaults.lastPointReset now
    let startOfMonth := monthBound device defaults.lastPointReset now
    let points := loadPoints device defaults tables now now now
    let others := loadPoints device (withPresets defaults entries) tables now now now
    points.previousMonth - others.previousMonth =
        (if startOfPreviousMonth ≤ grant.1 ∧ grant.1 < startOfMonth then grant.2 else 0) ∧
      points.currentMonth - others.currentMonth =
        (if startOfMonth ≤ grant.1 then grant.2 else 0) := by
  obtain ⟨date, points⟩ := grant
  simp only [loadPoints_eq, getPresetPoints_withPresets, withPresets_lastPointReset,
    total_perm split, total_cons, Set.mem_Ico, Set.mem_Ici]
  constructor
  · split_ifs <;> ring
  · split_ifs <;> ring

/-- Between them the two months hold what is dated since the previous month,
and once more the responses dated exactly at the beginning of the month. -/
theorem previousMonth_add_currentMonth :
    (loadPoints device defaults tables now now now).previousMonth +
        (loadPoints device defaults tables now now now).currentMonth =
      ((tables.responses.filter fun row => decide
          (previousMonthBound device defaults.lastPointReset now ≤ row.value.date)).length : Int) +
        (((readGrants (getPresetPoints defaults)).filter fun grant => decide
          (previousMonthBound device defaults.lastPointReset now ≤ grant.1)).map Prod.snd).sum +
        total {monthBound device defaults.lastPointReset now} (responseEntries tables) := by
  have ordered := previousMonthBound_le_monthBound device defaults.lastPointReset now
  have grants := total_Ico_add_Ici (readGrants (getPresetPoints defaults)) ordered
  have responses := total_Ico_add_Ici (responseEntries tables) ordered
  have closing := total_Icc (responseEntries tables) ordered
  have selects : ∀ date,
      decide (previousMonthBound device defaults.lastPointReset now ≤ date) = true ↔
        date ∈ Set.Ici (previousMonthBound device defaults.lastPointReset now) := by simp
  rw [← total_units (fun row : ResponseRow => row.value.date) _ selects,
    ← total_eq_sum_filter _ selects, ← responseEntries]
  simp only [loadPoints_eq]
  linarith

/-- The months partition the points exactly if no response is dated at the very
beginning of the month, or at the reset when that is later. -/
theorem monthsPartition_iff (wellFormed : WellFormed (getPresetPoints defaults)) :
    MonthsPartition device defaults tables now ↔
      ∀ row ∈ tables.responses, row.value.date ≠ monthBound device defaults.lastPointReset now := by
  have since : laterOf defaults.lastPointReset (startOfPreviousMonth device.timeZone now) =
      previousMonthBound device defaults.lastPointReset now := (clamped_eq_laterOf _ _).symm
  have ordered := previousMonthBound_le_monthBound device defaults.lastPointReset now
  have months := previousMonth_add_currentMonth device defaults tables now
  have atBegin :
      total {monthBound device defaults.lastPointReset now} (responseEntries tables) = 0 ↔
        ∀ row ∈ tables.responses, row.value.date ≠ monthBound device defaults.lastPointReset now :=
    total_units_eq_zero_iff (fun row : ResponseRow => row.value.date) tables.responses
  constructor
  · intro partition
    have sum := partition.total
    simp only [since] at sum
    exact atBegin.mp (by linarith)
  · intro apart
    refine ⟨fun row stored => ?_, fun index date points found => ?_, ?_⟩
    · rw [since, CountedOnce, responseShare_previousMonth stored, responseShare_currentMonth stored]
      have different := apart row stored
      split_ifs <;> grind
    · obtain ⟨previous, current⟩ := loadPoints_perm_cons device defaults tables now
        (readGrants_perm_eraseIdx wellFormed found)
      rw [since, CountedOnce, grantShare, grantShare, previous, current]
      split_ifs <;> grind
    · simp only [since]
      have none := atBegin.mpr apart
      linarith

/-- In the middle of January, with a response in each of two months and a grant. -/
theorem monthsPartition_january :
    MonthsPartition (Device.gmt "")
      { presetPoints := some (.archive [PresetEntry.grant (seconds 86400) 3]) }
      ((Tables.empty.insertResponse ⟨"7", "", seconds (-86400)⟩).insertResponse
        ⟨"8", "", seconds 86400⟩) (seconds (14 * 86400)) :=
  (monthsPartition_iff _ _ _ _ (by decide +kernel)).mpr (by decide +kernel)

/-- A response dated at the very beginning of January counts in both months. -/
theorem monthsPartition_fails :
    ¬ MonthsPartition (Device.gmt "") {}
      (Tables.empty.insertResponse ⟨"7", "", 0⟩) (seconds (14 * 86400)) := by
  intro partition
  have counted := partition.total
  revert counted
  decide +kernel

/-! ## Grants as responses -/

/-- Store responses with the given numbers and details, all of one date. -/
def addDated (date : Date) (texts : List (String × String)) (tables : Tables) : Tables :=
  texts.foldl (fun stored text => stored.insertResponse ⟨text.1, text.2, date⟩) tables

/-- A grant between other entries counts like as many responses of its date. -/
def GrantAsResponses (before after : List PresetEntry) (date : Date)
    (texts : List (String × String)) : Prop :=
  loadPoints device (withPresets defaults (before ++ PresetEntry.grant date texts.length :: after))
      tables now now now =
    loadPoints device (withPresets defaults (before ++ after))
      (addDated date texts tables) now now now

theorem responseEntries_addDated (date : Date) (texts : List (String × String)) :
    responseEntries (addDated date texts tables) =
      responseEntries tables ++ List.replicate texts.length (date, 1) := by
  induction texts generalizing tables with
  | nil => simp [addDated]
  | cons text rest ih =>
      rw [addDated, List.foldl_cons, ← addDated, ih, List.length_cons, List.replicate_succ]
      simp [responseEntries, Tables.insertResponse]

/-- What the responses add to the totals. -/
theorem loadPoints_addDated (date : Date) (texts : List (String × String)) :
    let added := [(date, (texts.length : Int))]
    let points := loadPoints device defaults tables now now now
    loadPoints device defaults (addDated date texts tables) now now now =
      { currentYear := points.currentYear +
          total (Set.Ici (yearBound device defaults.lastPointReset now)) added
        currentMonth := points.currentMonth +
          total (Set.Ici (monthBound device defaults.lastPointReset now)) added
        previousMonth := points.previousMonth +
          total (Set.Icc (previousMonthBound device defaults.lastPointReset now)
            (monthBound device defaults.lastPointReset now)) added
        all := points.all + texts.length } := by
  simp only [loadPoints_eq, responseEntries_addDated, total_append, total_replicate]
  ext
  case all =>
    rw [total_cons_of_mem _ (Set.mem_univ _), total_nil]
    ring
  all_goals ring

/-- What a grant behind well-formed entries adds to the totals. -/
theorem loadPoints_grant {before : List PresetEntry} (wellFormed : WellFormed before)
    (after : List PresetEntry) (date : Date) (value : Int) :
    let added := [(date, value)]
    let points := loadPoints device (withPresets defaults (before ++ after)) tables now now now
    loadPoints device (withPresets defaults (before ++ PresetEntry.grant date value :: after))
        tables now now now =
      { currentYear := points.currentYear +
          total (Set.Ici (monthBound device defaults.lastPointReset now)) added
        currentMonth := points.currentMonth +
          total (Set.Ici (monthBound device defaults.lastPointReset now)) added
        previousMonth := points.previousMonth +
          total (Set.Ico (previousMonthBound device defaults.lastPointReset now)
            (monthBound device defaults.lastPointReset now)) added
        all := points.all + value } := by
  have split : readGrants (before ++ PresetEntry.grant date value :: after) =
      readGrants before ++ ([(date, value)] ++ readGrants after) := by
    rw [readGrants_append _ _ wellFormed]
    rfl
  simp only [loadPoints_eq, getPresetPoints_withPresets, withPresets_lastPointReset, split,
    readGrants_append _ _ wellFormed, total_append]
  ext
  case all =>
    rw [total_cons_of_mem _ (Set.mem_univ _), total_nil]
    ring
  all_goals ring

/-- Nothing behind a malformed entry is read. -/
theorem loadPoints_unread {before : List PresetEntry} (malformed : ¬ WellFormed before)
    (after more : List PresetEntry) :
    loadPoints device (withPresets defaults (before ++ after)) tables now now now =
      loadPoints device (withPresets defaults (before ++ more)) tables now now now := by
  simp only [loadPoints_eq, getPresetPoints_withPresets, withPresets_lastPointReset,
    readGrants_append_of_not _ _ malformed]

/-- A grant counts like as many responses exactly if it is worth nothing, or is
read and dated before the year or after the beginning of the month. The sums are
unbounded here; the program traps where they leave the range of `Int`. -/
theorem grantAsResponses_iff (before after : List PresetEntry) (date : Date)
    (texts : List (String × String)) :
    GrantAsResponses device defaults tables now before after date texts ↔
      texts = [] ∨ (WellFormed before ∧
        (date < yearBound device defaults.lastPointReset now ∨
          monthBound device defaults.lastPointReset now < date)) := by
  have yearOrdered := yearBound_le_monthBound device defaults.lastPointReset now
  have monthOrdered := previousMonthBound_le_monthBound device defaults.lastPointReset now
  have worthless : (texts.length : Int) = 0 ↔ texts = [] := by simp
  by_cases wellFormed : WellFormed before
  · rw [GrantAsResponses, loadPoints_addDated, loadPoints_grant _ _ _ _ wellFormed, Points.ext_iff]
    simp only [withPresets_lastPointReset, add_right_inj, true_and, and_true, wellFormed,
      ← worthless]
    classical
    simp only [total_singleton, Set.mem_Ici, Set.mem_Ico, Set.mem_Icc]
    split_ifs <;> grind
  · -- The grant is not read, so only the responses count.
    rw [GrantAsResponses, loadPoints_addDated, loadPoints_unread _ _ _ _ wellFormed _ after,
      Points.ext_iff]
    constructor
    · rintro ⟨-, -, -, all⟩
      left
      exact worthless.mp (left_eq_add.mp all)
    · rintro (rfl | ⟨formed, -⟩)
      · simp [total]
      · exact absurd formed wellFormed

/-- Additions that trap add the same, so wherever both totals can be loaded, they
are equal exactly if the grant counts like the responses. -/
theorem loaded_eq_iff_grantAsResponses {before after : List PresetEntry} {date : Date}
    {texts : List (String × String)} {granted responded : Points}
    (loadedGranted : loadPoints? device
      (withPresets defaults (before ++ PresetEntry.grant date texts.length :: after)) tables now now
        now = some granted)
    (loadedResponded : loadPoints? device (withPresets defaults (before ++ after))
      (addDated date texts tables) now now now = some responded) :
    granted = responded ↔ GrantAsResponses device defaults tables now before after date texts := by
  obtain ⟨-, rfl⟩ := loadPoints?_eq_some_iff.mp loadedGranted
  obtain ⟨-, rfl⟩ := loadPoints?_eq_some_iff.mp loadedResponded
  exact Iff.rfl

/-- In June, a grant of two points dated in February does not count in the year. -/
theorem grantAsResponses_fails :
    ¬ GrantAsResponses (Device.gmt "") {} Tables.empty
      (seconds (160 * 86400)) [] [] (seconds (40 * 86400)) [("7", ""), ("8", "")] := by
  intro counted
  have years := congrArg Points.currentYear counted
  revert years
  decide +kernel

end ResponseTracker
