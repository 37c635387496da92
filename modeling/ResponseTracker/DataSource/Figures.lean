import ResponseTracker.DataSource.Clock

/-!
# What grants and time do to the figures

A grant weighs its points in the windows its date is in. Left alone, with no
negative grants, the figures are in order and only decrease from one month to
another (`figures_descend`).
-/

namespace ResponseTracker

open Window DataManager

variable {device : Device} {stores : Stores} {now instant : Date} {points : Int}

/-- Where all entries can be read, a grant is read after them. -/
theorem readGrants_manuallyAdd (wellFormed : WellFormed (getPresetPoints stores.defaults)) :
    readGrants (getPresetPoints (manuallyAdd now points stores).defaults) =
      readGrants (getPresetPoints stores.defaults) ++ [(now, points)] :=
  readGrants_append _ _ wellFormed

/-- A grant adds its points to the figures whose windows its date is in. -/
theorem getPoints_manuallyAdd (wellFormed : WellFormed (getPresetPoints stores.defaults)) :
    let startOfPreviousMonth := previousMonthBound device stores.defaults.lastPointReset instant
    let startOfMonth := monthBound device stores.defaults.lastPointReset instant
    let before := getPoints device stores instant
    getPoints device (manuallyAdd now points stores) instant =
      { currentYear := before.currentYear + if startOfMonth ≤ now then points else 0
        currentMonth := before.currentMonth + if startOfMonth ≤ now then points else 0
        previousMonth := before.previousMonth +
          if startOfPreviousMonth ≤ now ∧ now < startOfMonth then points else 0
        all := before.all + points } := by
  intro startOfPreviousMonth startOfMonth before
  have grants : readGrants (getPresetPoints (manuallyAdd now points stores).defaults) = _ :=
    readGrants_manuallyAdd wellFormed
  have defaults : (manuallyAdd now points stores).defaults.lastPointReset =
      stores.defaults.lastPointReset := rfl
  have tables : (manuallyAdd now points stores).tables = stores.tables := rfl
  simp only [before, getPoints, loadPoints_eq, grants, defaults, tables, total_append]
  ext
  case currentYear => simp [total, startOfMonth]; ring
  case currentMonth => simp [total, startOfMonth]; ring
  case previousMonth => simp [total, startOfMonth, startOfPreviousMonth]; ring
  case all => simp [total]; ring

/-- Additions that trap add the same, wherever both totals can be loaded. -/
theorem getPoints?_manuallyAdd {before after : Points}
    (wellFormed : WellFormed (getPresetPoints stores.defaults))
    (loadedBefore : getPoints? device stores instant = some before)
    (loadedAfter : getPoints? device (manuallyAdd now points stores) instant = some after) :
    let startOfPreviousMonth := previousMonthBound device stores.defaults.lastPointReset instant
    let startOfMonth := monthBound device stores.defaults.lastPointReset instant
    after =
      { currentYear := before.currentYear + if startOfMonth ≤ now then points else 0
        currentMonth := before.currentMonth + if startOfMonth ≤ now then points else 0
        previousMonth := before.previousMonth +
          if startOfPreviousMonth ≤ now ∧ now < startOfMonth then points else 0
        all := before.all + points } := by
  obtain ⟨-, rfl⟩ := getPoints?_eq_some_iff.mp loadedBefore
  obtain ⟨-, rfl⟩ := getPoints?_eq_some_iff.mp loadedAfter
  exact getPoints_manuallyAdd wellFormed

/-! ## As time passes -/

/-- The bounds do not move back from one local month to another. -/
theorem startOfMonth_mono {zone : TimeZone} {earlier later : Date}
    (ordered : zone.monthIndex earlier ≤ zone.monthIndex later) :
    startOfMonth zone earlier ≤ startOfMonth zone later := by
  rw [startOfMonth_eq, startOfMonth_eq]
  rcases ordered.eq_or_lt with same | before
  · rw [same]
  · exact (toLocal_monthBegin_lt zone before).le

theorem startOfYear_mono {zone : TimeZone} {earlier later : Date}
    (ordered : zone.monthIndex earlier ≤ zone.monthIndex later) :
    startOfYear zone earlier ≤ startOfYear zone later := by
  have years : yearIndex zone earlier ≤ yearIndex zone later := by
    unfold yearIndex Gregorian.monthIndex Gregorian.year
    omega
  rw [startOfYear_eq, startOfYear_eq]
  rcases years.eq_or_lt with same | before
  · rw [same]
  · exact (toLocal_monthBegin_lt zone before).le

/-- A figure of grants in one window and responses in another is at most that of
larger windows. -/
theorem figure_mono {grants responses : List (Date × Int)} {first second third fourth : Set Date}
    (grantsNonNegative : ∀ grant ∈ grants, 0 ≤ grant.2)
    (responsesNonNegative : ∀ response ∈ responses, 0 ≤ response.2)
    (insideGrants : first ⊆ third) (insideResponses : second ⊆ fourth) :
    total first grants + total second responses ≤ total third grants + total fourth responses :=
  add_le_add (total_mono insideGrants grantsNonNegative)
    (total_mono insideResponses responsesNonNegative)

/-- At two instants whose local months are in order, and with no negative grant
among those that are read, the figures of the later one are in order themselves,
and none of them exceeds what it was at the earlier one except that of the
previous month. The program loads them at both, or traps at both. -/
theorem figures_descend {earlier later : Date}
    (nonNegative : ∀ grant ∈ readGrants (getPresetPoints stores.defaults), 0 ≤ grant.2)
    (ordered : device.timeZone.monthIndex earlier ≤ device.timeZone.monthIndex later) :
    let first := getPoints device stores earlier
    let next := getPoints device stores later
    (0 ≤ next.currentMonth ∧ next.currentMonth ≤ next.currentYear ∧ next.currentYear ≤ next.all) ∧
    (0 ≤ next.previousMonth ∧ next.previousMonth ≤ next.all) ∧
    (next.currentMonth ≤ first.currentMonth ∧ next.currentYear ≤ first.currentYear ∧
      next.all = first.all) ∧
    (getPoints? device stores earlier = some first ↔
      getPoints? device stores later = some next) := by
  intro first next
  have responses : ∀ entry ∈ responseEntries stores.tables, 0 ≤ entry.2 := by
    intro entry member
    obtain ⟨row, -, rfl⟩ := List.mem_map.mp member
    exact Int.one_nonneg
  have months := clamped_mono stores.defaults.lastPointReset (startOfMonth_mono ordered)
  have years := clamped_mono stores.defaults.lastPointReset (startOfYear_mono ordered)
  have yearFirst := yearBound_le_monthBound device stores.defaults.lastPointReset later
  have nothing : ∀ entries : List (Date × Int), total ∅ entries = 0 := by simp [total]
  have atLeast : ∀ window other : Set Date, 0 ≤ total window (readGrants
      (getPresetPoints stores.defaults)) + total other (responseEntries stores.tables) := by
    intro window other
    have less :=
      figure_mono nonNegative responses (Set.empty_subset window) (Set.empty_subset other)
    rwa [nothing, nothing, add_zero] at less
  have loads : getPoints? device stores earlier = some first ↔
      getPoints? device stores later = some next := by
    rw [getPoints?_eq_some_iff, getPoints?_eq_some_iff, totalsFit_iff_of_nonNegative nonNegative,
      totalsFit_iff_of_nonNegative nonNegative]
    exact ⟨fun fits => ⟨fits.1, rfl⟩, fun fits => ⟨fits.1, rfl⟩⟩
  refine ⟨?_, ?_, ?_, loads⟩ <;> simp only [first, next, getPoints, loadPoints_eq]
  · refine ⟨atLeast _ _, ?_, ?_⟩
    · exact figure_mono nonNegative responses subset_rfl (Set.Ici_subset_Ici.mpr yearFirst)
    · exact figure_mono nonNegative responses (Set.subset_univ _) (Set.subset_univ _)
  · exact ⟨atLeast _ _,
      figure_mono nonNegative responses (Set.subset_univ _) (Set.subset_univ _)⟩
  · refine ⟨?_, ?_, trivial⟩
    · exact figure_mono nonNegative responses (Set.Ici_subset_Ici.mpr months)
        (Set.Ici_subset_Ici.mpr months)
    · exact figure_mono nonNegative responses (Set.Ici_subset_Ici.mpr months)
        (Set.Ici_subset_Ici.mpr years)

/-- From January to February, with a response and a grant of January. -/
theorem figures_descend_february :
    let stores : Stores := ⟨⟨Tables.empty.insertResponse ⟨"7", "", seconds 86400⟩, none⟩,
      { presetPoints := some (.archive [.grant (seconds 172800) 3]) }⟩
    (getPoints (Device.gmt "") stores (seconds (40 * 86400))).currentMonth ≤
      (getPoints (Device.gmt "") stores (seconds (10 * 86400))).currentMonth := by
  intro stores
  have nonNegative : ∀ grant ∈ readGrants (getPresetPoints stores.defaults), 0 ≤ grant.2 := by
    decide
  exact (figures_descend nonNegative (by decide +kernel)).2.2.1.1

end ResponseTracker
