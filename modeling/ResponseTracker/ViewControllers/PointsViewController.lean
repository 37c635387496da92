import ResponseTracker.DataSource.Mutations
import ResponseTracker.DataSource.MonthWindows
import ResponseTracker.DataSource.Overflow
import ResponseTracker.Std.Execution

/-!
# The points screen

The screen keeps a `Points` of its own and adds to it or zeroes it while the
stores change. `figures_iff` says in exactly which runs within one month its
figures stay those of a recount: added points must fall into the month that is
counted, no sum may leave the range of `Int`, and a reset must not leave
responses dated at it or later.
-/

namespace ResponseTracker

open Checked DataManager Execution Window

/-- The screen's points beside the stores, and the last reading of the clock. -/
structure PointsScreen where
  stores : Stores
  points : Points
  clock : Date

inductive PointsAction where
  | addPoints (points : Int)
  | resetPoints
  | clearData

/-- A confirmed action with the clock it reads and the outcome of its commit. -/
structure Confirmed where
  action : PointsAction
  now : Date
  commits : Bool

namespace PointsScreen

/-- An addition that overflows ends the process. -/
def onAddPoints (now : Date) (points : Int) (screen : PointsScreen) : Option PointsScreen := do
  let increased ← screen.points.increaseCurrent? points
  some { stores := manuallyAdd now points screen.stores, points := increased, clock := now }

def onResetPoints (now : Date) (screen : PointsScreen) : PointsScreen where
  stores := DataManager.clearPoints now screen.stores
  points := screen.points.clearPoints
  clock := now

/-- The points are zeroed whatever `clearAllData` reports. -/
def onClearData (now : Date) (commits : Bool) (screen : PointsScreen) : Option PointsScreen := do
  let (stores, _) ← clearAllData now commits screen.stores
  some { stores, points := screen.points.clearPoints, clock := now }

def handle (confirmed : Confirmed) (screen : PointsScreen) : Option PointsScreen :=
  match confirmed.action with
  | .addPoints points => screen.onAddPoints confirmed.now points
  | .resetPoints => some (screen.onResetPoints confirmed.now)
  | .clearData => screen.onClearData confirmed.now confirmed.commits

/-- The figures of `setupPoints`. -/
def figures (points : Points) : List Int :=
  [points.currentYear, points.currentMonth, points.previousMonth]

/-- The screen is there, and its figures are those of a recount. -/
def Current (device : Device) (state : Option PointsScreen) : Prop :=
  ∃ screen ∈ state,
    (getPoints? device screen.stores screen.clock).map figures = some (figures screen.points)

/-- An action taken later in the same local month. No screen is left when it ends
the process, in an addition that overflows or a transaction begun in an open one. -/
def Step (device : Device) (before : Option PointsScreen) (confirmed : Confirmed)
    (after : Option PointsScreen) : Prop :=
  ∃ screen ∈ before, screen.clock ≤ confirmed.now ∧
    device.timeZone.monthIndex screen.clock = device.timeZone.monthIndex confirmed.now ∧
    screen.handle confirmed = after

/-- The sums of the action fit, and a recount takes notice of it like the running
figures do. -/
def Followed (device : Device) (performed : Performed (Option PointsScreen) Confirmed) : Prop :=
  ∀ screen ∈ performed.before,
    let stores := screen.stores
    let now := performed.action.now
    match performed.action.action with
    | .addPoints points =>
        (Fits 64 (screen.points.all + points) ∧ Fits 64 (screen.points.currentMonth + points) ∧
          Fits 64 (screen.points.currentYear + points)) ∧
        TotalsTake device stores.defaults stores.tables now now now now points ∧
        (points = 0 ∨ (WellFormed (getPresetPoints stores.defaults) ∧
          monthBound device stores.defaults.lastPointReset now ≤ now))
    | .resetPoints => Fits 64 stores.tables.responses.length ∧
        ∀ row ∈ stores.tables.responses, row.value.date < now
    | .clearData => stores.defaultRealm.staged = none

theorem figures_eq_iff {points others : Points} : figures points = figures others ↔
    points.currentYear = others.currentYear ∧ points.currentMonth = others.currentMonth ∧
      points.previousMonth = others.previousMonth := by
  simp [figures]

variable {device : Device}

/-- A recount within one month does not depend on the reading of the clock. -/
theorem getPoints_congr {earlier later : Date}
    (sameMonth : device.timeZone.monthIndex earlier = device.timeZone.monthIndex later)
    (stores : Stores) :
    getPoints device stores earlier = getPoints device stores later := by
  simp only [getPoints, loadPoints, startOfMonth_congr sameMonth, startOfYear_congr sameMonth,
    startOfPreviousMonth_congr sameMonth]

theorem totalsFit_congr {earlier later : Date}
    (sameMonth : device.timeZone.monthIndex earlier = device.timeZone.monthIndex later)
    (defaults : UserDefaults) (tables : Tables) :
    TotalsFit device defaults tables earlier earlier earlier ↔
      TotalsFit device defaults tables later later later := by
  have bounds : windows device defaults.lastPointReset tables earlier earlier earlier =
      windows device defaults.lastPointReset tables later later later := by
    unfold windows yearBound previousMonthBound monthBound
    rw [startOfYear_congr sameMonth, startOfPreviousMonth_congr sameMonth,
      startOfMonth_congr sameMonth]
  rw [TotalsFit, bounds, TotalsFit]

/-- Points are added exactly if they fit onto the figures that grow. -/
theorem onAddPoints_eq_some_iff {screen after : PointsScreen} {now : Date} {points : Int} :
    screen.onAddPoints now points = some after ↔
      (Fits 64 (screen.points.all + points) ∧ Fits 64 (screen.points.currentMonth + points) ∧
        Fits 64 (screen.points.currentYear + points)) ∧
      ⟨manuallyAdd now points screen.stores, screen.points.increaseCurrent points, now⟩ =
        after := by
  simp only [onAddPoints, Option.bind_eq_bind, Option.bind_eq_some_iff, Option.some.injEq,
    increaseCurrent?_eq_some_iff]
  constructor
  · rintro ⟨_, ⟨fits, rfl⟩, rfl⟩
    exact ⟨fits, rfl⟩
  · rintro ⟨fits, rfl⟩
    exact ⟨_, ⟨fits, rfl⟩, rfl⟩

/-- The figures are current exactly if the recount fits and has the same ones. -/
theorem current_some_iff {screen : PointsScreen} : Current device (some screen) ↔
    TotalsFit device screen.stores.defaults screen.stores.tables screen.clock screen.clock
        screen.clock ∧
      figures screen.points = figures (getPoints device screen.stores screen.clock) := by
  simp only [Current, Option.mem_def, Option.some.injEq, exists_eq_left', Option.map_eq_some_iff,
    getPoints?_eq_some_iff]
  constructor
  · rintro ⟨_, ⟨fits, rfl⟩, same⟩
    exact ⟨fits, same.symm⟩
  · rintro ⟨fits, same⟩
    exact ⟨_, ⟨fits, rfl⟩, same.symm⟩

/-- A recount after adding points finds them in the windows of their date. -/
theorem figures_onAddPoints_iff {stores : Stores} {shown : Points} {now : Date} (points : Int)
    (current : figures shown = figures (getPoints device stores now)) :
    figures (shown.increaseCurrent points) =
        figures (getPoints device (manuallyAdd now points stores) now) ↔
      points = 0 ∨ (WellFormed (getPresetPoints stores.defaults) ∧
        monthBound device stores.defaults.lastPointReset now ≤ now) := by
  obtain ⟨years, months, previous⟩ := figures_eq_iff.mp current
  rw [figures_eq_iff]
  have recounted : getPoints device (manuallyAdd now points stores) now =
      loadPoints device (withPresets stores.defaults
        (getPresetPoints stores.defaults ++ [PresetEntry.grant now points]))
        stores.tables now now now := rfl
  have counted : getPoints device stores now =
      loadPoints device (withPresets stores.defaults (getPresetPoints stores.defaults ++ []))
        stores.tables now now now := by
    rw [List.append_nil, loadPoints_withPresets_self]
    rfl
  rw [counted] at years months previous
  simp only [Points.increaseCurrent]
  rw [recounted, years, months, previous]
  by_cases wellFormed : WellFormed (getPresetPoints stores.defaults)
  · rw [loadPoints_grant _ _ _ _ wellFormed]
    classical
    simp only [total_singleton, Set.mem_Ici, Set.mem_Ico, wellFormed, true_and]
    split_ifs <;> grind
  · rw [loadPoints_unread _ _ _ _ wellFormed [PresetEntry.grant now points] []]
    simp [wellFormed]

/-- Adding points leaves current figures exactly if the running figures fit, the
recount takes the grant, and finds it where they do. -/
theorem current_onAddPoints_iff {screen : PointsScreen} {now : Date} (points : Int)
    (fits : TotalsFit device screen.stores.defaults screen.stores.tables now now now)
    (current : figures screen.points = figures (getPoints device screen.stores now)) :
    Current device (screen.onAddPoints now points) ↔
      (Fits 64 (screen.points.all + points) ∧ Fits 64 (screen.points.currentMonth + points) ∧
        Fits 64 (screen.points.currentYear + points)) ∧
      TotalsTake device screen.stores.defaults screen.stores.tables now now now now points ∧
      (points = 0 ∨ (WellFormed (getPresetPoints screen.stores.defaults) ∧
        monthBound device screen.stores.defaults.lastPointReset now ≤ now)) := by
  cases added : screen.onAddPoints now points with
  | none =>
      refine iff_of_false (by simp [Current]) fun holds => ?_
      rw [onAddPoints_eq_some_iff.mpr ⟨holds.1, rfl⟩] at added
      exact absurd added (by simp)
  | some after =>
      obtain ⟨increases, rfl⟩ := onAddPoints_eq_some_iff.mp added
      rw [current_some_iff, figures_onAddPoints_iff points current]
      exact (and_congr_left' (totalsFit_manuallyAdd_iff now points fits)).trans
        (and_iff_right increases).symm

/-- After a reset the totals count no grants, and responses since the reset. -/
theorem getPoints_clearPoints (device : Device) (stores : Stores) (now : Date) :
    let reset := some now
    let counted := getPoints device (DataManager.clearPoints now stores) now
    counted.currentYear =
        total (Set.Ici (yearBound device reset now)) (responseEntries stores.tables) ∧
      counted.currentMonth =
        total (Set.Ici (monthBound device reset now)) (responseEntries stores.tables) ∧
      counted.previousMonth =
        total (Set.Icc now (monthBound device reset now)) (responseEntries stores.tables) := by
  have previous : previousMonthBound device (some now) now = now :=
    if_neg (not_lt.mpr (startOfPreviousMonth_lt device.timeZone now).le)
  have unread :
      readGrants (getPresetPoints (DataManager.clearPoints now stores).defaults) = [] := rfl
  have reset : (DataManager.clearPoints now stores).defaults.lastPointReset = some now := rfl
  simp only [getPoints, loadPoints_eq, unread, reset, total_nil, zero_add, previous]
  exact ⟨rfl, rfl, rfl⟩

/-- After a reset a recount still finds what is dated at the reset or later. -/
theorem figures_clearPoints_iff (shown : Points) (stores : Stores) (now : Date) :
    figures shown.clearPoints =
        figures (getPoints device (DataManager.clearPoints now stores) now) ↔
      ∀ row ∈ stores.tables.responses, row.value.date < now := by
  obtain ⟨years, months, previous⟩ := getPoints_clearPoints device stores now
  have yearOrdered := yearBound_le_monthBound device (some now) now
  have reset : ∀ date, yearBound device (some now) now ≤ date → now ≤ date := fun date after =>
    ((clamped_le_iff (some now) _ date).mp after).2 now rfl
  rw [figures_eq_iff]
  simp only [Points.clearPoints, years, months, previous]
  simp only [eq_comm (a := (0 : Int)), responseEntries, total_units_eq_zero_iff, Set.mem_Ici,
    Set.mem_Icc]
  constructor
  · rintro ⟨noYear, -, noPrevious⟩ row stored
    by_contra late
    have notYear := not_le.mp (noYear row stored)
    exact noPrevious row stored ⟨not_lt.mp late, notYear.le.trans yearOrdered⟩
  · intro before
    refine ⟨fun row stored after => ?_, fun row stored after => ?_, fun row stored after => ?_⟩
    · exact not_lt.mpr (reset _ after) (before row stored)
    · exact not_lt.mpr (reset _ (le_trans yearOrdered after)) (before row stored)
    · exact not_lt.mpr after.1 (before row stored)

/-- A reset leaves current figures exactly if the responses can be counted and
all are dated before it. -/
theorem current_onResetPoints_iff (screen : PointsScreen) (now : Date) :
    Current device (some (screen.onResetPoints now)) ↔
      Fits 64 screen.stores.tables.responses.length ∧
        ∀ row ∈ screen.stores.tables.responses, row.value.date < now := by
  rw [current_some_iff]
  exact and_congr (totalsFit_iff_of_nil rfl)
    (figures_clearPoints_iff screen.points screen.stores now)

/-- Clearing all data does to the screen and the user defaults what a reset does,
and deletes every row, whether or not that is committed. -/
theorem onClearData_eq_some {before after : PointsScreen} {now : Date} {commits : Bool}
    (cleared : before.onClearData now commits = some after) :
    after = onResetPoints now { before with
      stores := ⟨Mutation.settled before.stores.tables before.stores.tables.deleteAll commits,
        before.stores.defaults⟩ } := by
  simp only [onClearData, Option.bind_eq_bind, Option.bind_eq_some_iff, Option.some.injEq]
    at cleared
  obtain ⟨⟨stores, calls⟩, performed, rfl⟩ := cleared
  rw [clearAllData_eq_some performed]
  rfl

/-- The store lets a clear begin exactly if no transaction is open. -/
theorem onClearData_isSome_iff (screen : PointsScreen) (now : Date) (commits : Bool) :
    (screen.onClearData now commits).isSome ↔ screen.stores.defaultRealm.staged = none := by
  -- A clear reads nothing of the device, so any will do.
  have performs : (Mutation.clearAllData.perform (Device.gmt "") now commits screen.stores).isSome ↔
      screen.stores.defaultRealm.staged = none ∧ true = true :=
    perform_isSome (Device.gmt "") now commits
  rw [Mutation.perform] at performs
  rw [onClearData, Option.bind_eq_bind, Option.isSome_bind]
  simpa using performs

/-- Clearing all data leaves nothing to count, if it is done at all. -/
theorem current_onClearData_iff (screen : PointsScreen) (now : Date) (commits : Bool) :
    Current device (screen.onClearData now commits) ↔
      screen.stores.defaultRealm.staged = none := by
  rw [← onClearData_isSome_iff screen now commits]
  cases cleared : screen.onClearData now commits with
  | none => simp [Current]
  | some after =>
      obtain rfl := onClearData_eq_some cleared
      refine iff_of_true ?_ rfl
      rw [current_onResetPoints_iff, tables_settled]
      exact ⟨(by decide : Fits 64 ([] : List ResponseRow).length),
        fun row stored => absurd stored List.not_mem_nil⟩

/-- From current figures, one action leaves current figures exactly if a recount
follows it. -/
theorem current_iff {before after : Option PointsScreen} {confirmed : Confirmed}
    (current : Current device before) (step : Step device before confirmed after) :
    Current device after ↔ Followed device ⟨before, confirmed, after⟩ := by
  obtain ⟨screen, rfl, -, sameMonth, rfl⟩ := step
  obtain ⟨fits, same⟩ := current_some_iff.mp current
  rw [getPoints_congr sameMonth] at same
  have fitsNow := (totalsFit_congr sameMonth screen.stores.defaults screen.stores.tables).mp fits
  simp only [Followed, Option.mem_def, Option.some.injEq, forall_eq']
  obtain ⟨action, now, commits⟩ := confirmed
  cases action with
  | addPoints points => exact current_onAddPoints_iff points fitsNow same
  | resetPoints => exact current_onResetPoints_iff screen now
  | clearData => exact current_onClearData_iff screen now commits

end PointsScreen

open PointsScreen

/-- The figures stay those of a recount in exactly the runs whose every action
is followed by a recount: points are added at or after the beginning of the
counted month and fit onto all sums, no response is dated at a reset or later,
and no transaction is open at a clear. -/
theorem figures_iff {device : Device}
    {history : List (Performed (Option PointsScreen) Confirmed)} {start : PointsScreen}
    {state : Option PointsScreen}
    (runs : Runs (PointsScreen.Step device) (some start) history state)
    (shown : getPoints? device start.stores start.clock = some start.points) :
    (∀ performed ∈ history, Current device performed.after) ↔
      ∀ performed ∈ history, Followed device performed := by
  have current : Current device (some start) := ⟨start, rfl, congrArg (Option.map figures) shown⟩
  refine runs.forall_iff (fun _ => True) (Current device) trivial current (fun _ _ => trivial)
    (fun _ still => still) ?_
  intro performed _ here step
  exact current_iff here step

/-- Three points, a reset and a clear in the middle of January, with a response of
the day before. -/
theorem figures_iff_january :
    let device := Device.gmt ""
    let stores : Stores := ⟨⟨Tables.empty.insertResponse ⟨"7", "", seconds (13 * 86400)⟩, none⟩, {}⟩
    let start : PointsScreen :=
      ⟨stores, getPoints device stores (seconds (14 * 86400)), seconds (14 * 86400)⟩
    let now := seconds (14 * 86400 + 1)
    let added : PointsScreen := ⟨manuallyAdd now 3 stores, start.points.increaseCurrent 3, now⟩
    let reset := added.onResetPoints (seconds (14 * 86400 + 2))
    let cleared := reset.onClearData (seconds (14 * 86400 + 3)) false
    ∀ performed ∈ [
      (⟨some start, ⟨.addPoints 3, now, true⟩, some added⟩ :
        Performed (Option PointsScreen) Confirmed),
      ⟨some added, ⟨.resetPoints, seconds (14 * 86400 + 2), true⟩, some reset⟩,
      ⟨some reset, ⟨.clearData, seconds (14 * 86400 + 3), false⟩, cleared⟩],
        Current device performed.after := by
  intro device stores start now added reset cleared
  have nothing : getPresetPoints stores.defaults = [] := rfl
  have loaded : getPoints? device start.stores start.clock = some start.points :=
    getPoints?_eq_some_iff.mpr ⟨(totalsFit_iff_of_nil nothing).mpr (by decide), rfl⟩
  have figures : Fits 64 (start.points.all + 3) ∧ Fits 64 (start.points.currentMonth + 3) ∧
      Fits 64 (start.points.currentYear + 3) := by decide +kernel
  have first : PointsScreen.Step device (some start) ⟨.addPoints 3, now, true⟩ (some added) :=
    ⟨start, rfl, by decide +kernel, by decide +kernel,
      onAddPoints_eq_some_iff.mpr ⟨figures, rfl⟩⟩
  have second : PointsScreen.Step device (some added)
      ⟨.resetPoints, seconds (14 * 86400 + 2), true⟩ (some reset) :=
    ⟨added, rfl, by decide +kernel, by decide +kernel, rfl⟩
  have third : PointsScreen.Step device (some reset)
      ⟨.clearData, seconds (14 * 86400 + 3), false⟩ cleared :=
    ⟨reset, rfl, by decide +kernel, by decide +kernel, rfl⟩
  apply (figures_iff (.step (.step (.step .initial first) second) third) loaded).mpr
  simp only [List.nil_append, List.cons_append, List.forall_mem_cons]
  refine ⟨?_, ?_, ?_, by simp⟩
  · rintro screen ⟨⟩
    refine ⟨figures, fun _ => ?_, .inr ⟨by decide, by decide +kernel⟩⟩
    unfold WindowTakes
    decide +kernel
  · rintro screen ⟨⟩
    refine ⟨by decide, fun row stored => ?_⟩
    obtain rfl := List.mem_singleton.mp stored
    decide +kernel
  · rintro screen ⟨⟩
    rfl

/-- A reset zeroes the figures, but a response of the next day is still counted. -/
theorem figures_fail :
    ¬ ∀ history start state,
      Runs (PointsScreen.Step (Device.gmt "")) (some start) history state →
      getPoints? (Device.gmt "") start.stores start.clock = some start.points →
      ∀ performed ∈ history, Current (Device.gmt "") performed.after := by
  intro always
  let stores : Stores := ⟨⟨Tables.empty.insertResponse ⟨"7", "", seconds (15 * 86400)⟩, none⟩, {}⟩
  let start : PointsScreen := ⟨stores, getPoints (Device.gmt "") stores
    (seconds (14 * 86400)), seconds (14 * 86400)⟩
  have nothing : getPresetPoints stores.defaults = [] := rfl
  have loaded : getPoints? (Device.gmt "") start.stores start.clock = some start.points :=
    getPoints?_eq_some_iff.mpr ⟨(totalsFit_iff_of_nil nothing).mpr (by decide), rfl⟩
  have reset : PointsScreen.Step (Device.gmt "") (some start)
      ⟨.resetPoints, seconds (14 * 86400), true⟩
      (some (start.onResetPoints (seconds (14 * 86400)))) := ⟨start, rfl, le_rfl, rfl, rfl⟩
  have current := always _ _ _ (.step .initial reset) loaded
    ⟨some start, ⟨.resetPoints, seconds (14 * 86400), true⟩,
      some (start.onResetPoints (seconds (14 * 86400)))⟩ (List.mem_singleton_self _)
  have same := (current_some_iff.mp current).2
  revert same
  decide +kernel

end ResponseTracker
