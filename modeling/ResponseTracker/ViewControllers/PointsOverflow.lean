import ResponseTracker.DataSource.Overflow
import ResponseTracker.Utils.AlertFactory
import ResponseTracker.ViewControllers.PointsViewController

/-!
# Points beyond the range

The dialog delivers numbers of the 64-bit range, but nothing bounds their sums.
`neverTraps_iff` says in exactly which runs of the points screen neither the
running figures nor the totals loaded at any later launch leave the range:
each added number must fit onto the sums it enters.
-/

namespace ResponseTracker

open AlertFactory Checked DataManager Execution

/-- What happens on the points screen. The totals are loaded anew when it is
opened again. -/
inductive PointsEvent where
  | addPoints (text : String)
  | resetPoints
  | clearData (commits : Bool)
  | reopen (previousMonthClock monthClock : Date)

/-- An event with the first reading of the clock in it. -/
structure Timed where
  event : PointsEvent
  now : Date

namespace PointsScreen

/-- `none` is the end of the process, by an addition that overflows or an
exception of the store. -/
def receive (device : Device) (timed : Timed) (screen : PointsScreen) : Option PointsScreen :=
  match timed.event with
  | .addPoints text => screen.onAddPoints timed.now (showAddPointsAlert text)
  | .resetPoints => some (screen.onResetPoints timed.now)
  | .clearData commits => screen.onClearData timed.now commits
  | .reopen previousMonthClock monthClock => do
      let points ← loadPoints? device screen.stores.defaults screen.stores.tables timed.now
        previousMonthClock monthClock
      some { stores := screen.stores, points, clock := monthClock }

/-- An event at a later reading of a clock that does not go back. No screen is left
when an addition overflows in it; a clear finds no open transaction. -/
def TimedStep (device : Device) (before : Option PointsScreen) (timed : Timed)
    (after : Option PointsScreen) : Prop :=
  ∃ screen ∈ before, screen.clock ≤ timed.now ∧
    (∀ previousMonthClock monthClock, timed.event = .reopen previousMonthClock monthClock →
      timed.now ≤ previousMonthClock ∧ previousMonthClock ≤ monthClock) ∧
    (∀ commits, timed.event = .clearData commits → after.isSome) ∧
    screen.receive device timed = after

/-- The totals can be loaded at all later readings of the clock. -/
def Loads (device : Device) (screen : PointsScreen) : Prop :=
  ∀ yearClock previousMonthClock monthClock, screen.clock ≤ yearClock →
    yearClock ≤ previousMonthClock → previousMonthClock ≤ monthClock →
    (loadPoints? device screen.stores.defaults screen.stores.tables yearClock previousMonthClock
      monthClock).isSome

/-- Nothing traps in the event, nor in the totals loaded at any time after it. -/
def NoTrap (device : Device) (performed : Performed (Option PointsScreen) Timed) : Prop :=
  ∃ screen ∈ performed.after, Loads device screen

/-- At all readings of the clock from an instant on, the accumulators fit. -/
def FitsFrom (device : Device) (clock : Date) (stores : Stores) : Prop :=
  ∀ yearClock previousMonthClock monthClock, clock ≤ yearClock →
    yearClock ≤ previousMonthClock → previousMonthClock ≤ monthClock →
    TotalsFit device stores.defaults stores.tables yearClock previousMonthClock monthClock

/-- At all readings of the clock from an instant on, the accumulators of the
windows that contain the instant fit with a grant made at it. A grant behind a
malformed entry is not read. -/
def TakesFrom (device : Device) (now : Date) (stores : Stores) (points : Int) : Prop :=
  WellFormed (getPresetPoints stores.defaults) →
    ∀ yearClock previousMonthClock monthClock, now ≤ yearClock →
      yearClock ≤ previousMonthClock → previousMonthClock ≤ monthClock →
      ∀ window ∈ windows device stores.defaults.lastPointReset stores.tables yearClock
        previousMonthClock monthClock,
        WindowTakes window.1 (readGrants (getPresetPoints stores.defaults)) window.2 now points

/-- The sums an event makes are in range. -/
def InRange (device : Device) (performed : Performed (Option PointsScreen) Timed) : Prop :=
  ∀ screen ∈ performed.before,
    match performed.action.event with
    | .addPoints text =>
        let points := showAddPointsAlert text
        (Fits 64 (screen.points.all + points) ∧ Fits 64 (screen.points.currentMonth + points) ∧
          Fits 64 (screen.points.currentYear + points)) ∧
        TakesFrom device performed.action.now screen.stores points
    | .resetPoints => Fits 64 screen.stores.tables.responses.length
    | .clearData _ => True
    | .reopen _ _ => True

variable {device : Device}

theorem loads_iff (screen : PointsScreen) :
    Loads device screen ↔ FitsFrom device screen.clock screen.stores := by
  simp only [Loads, FitsFrom, loadPoints?_isSome_iff]

/-- What fits from an instant on fits from every later one on. -/
theorem FitsFrom.later {clock now : Date} {stores : Stores} (fits : FitsFrom device clock stores)
    (forward : clock ≤ now) : FitsFrom device now stores :=
  fun yearClock previousMonthClock monthClock after =>
    fits yearClock previousMonthClock monthClock (le_trans forward after)

/-- A grant made now fits at all later readings exactly if it fits onto the sums
of the windows it enters. -/
theorem fitsFrom_manuallyAdd_iff {now : Date} {stores : Stores} (points : Int)
    (fits : FitsFrom device now stores) :
    FitsFrom device now (manuallyAdd now points stores) ↔ TakesFrom device now stores points := by
  constructor
  · intro after wellFormed yearClock previousMonthClock monthClock first second third
    have taken := totalsFit_manuallyAdd_iff now points
      (fits yearClock previousMonthClock monthClock first second third)
    exact taken.mp (after yearClock previousMonthClock monthClock first second third) wellFormed
  · intro takes yearClock previousMonthClock monthClock first second third
    have taken := totalsFit_manuallyAdd_iff now points
      (fits yearClock previousMonthClock monthClock first second third)
    exact taken.mpr fun wellFormed =>
      takes wellFormed yearClock previousMonthClock monthClock first second third

theorem fitsFrom_iff_of_nil {clock : Date} {stores : Stores}
    (nothing : getPresetPoints stores.defaults = []) :
    FitsFrom device clock stores ↔ Fits 64 stores.tables.responses.length := by
  constructor
  · intro fits
    exact (totalsFit_iff_of_nil nothing).mp (fits clock clock clock le_rfl le_rfl le_rfl)
  · intro fits yearClock previousMonthClock monthClock _ _ _
    exact (totalsFit_iff_of_nil nothing).mpr fits

theorem fitsFrom_of_nonNegative {clock : Date} {stores : Stores}
    (nonNegative : ∀ grant ∈ readGrants (getPresetPoints stores.defaults), 0 ≤ grant.2)
    (fits : Fits 64 (((readGrants (getPresetPoints stores.defaults)).map Prod.snd).sum +
      stores.tables.responses.length)) : FitsFrom device clock stores :=
  fun _ _ _ _ _ _ => (totalsFit_iff_of_nonNegative nonNegative).mpr fits

/-- From a screen whose totals load, an event traps nothing exactly if its sums
are in range. -/
theorem noTrap_iff {before : PointsScreen} {after : Option PointsScreen} {timed : Timed}
    (loads : Loads device before) (step : TimedStep device (some before) timed after) :
    NoTrap device ⟨some before, timed, after⟩ ↔ InRange device ⟨some before, timed, after⟩ := by
  obtain ⟨_, ⟨⟩, forward, ordered, cleared, received⟩ := step
  have fits := ((loads_iff before).mp loads).later forward
  obtain ⟨event, now⟩ := timed
  simp only [InRange, Option.mem_def, Option.some.injEq, forall_eq']
  cases event with
  | addPoints text =>
      have taken := fitsFrom_manuallyAdd_iff (showAddPointsAlert text) fits
      constructor
      · rintro ⟨screen, rfl, loadsAfter⟩
        obtain ⟨figures, rfl⟩ := onAddPoints_eq_some_iff.mp received
        exact ⟨figures, taken.mp ((loads_iff _).mp loadsAfter)⟩
      · rintro ⟨figures, takes⟩
        obtain rfl := (onAddPoints_eq_some_iff.mpr ⟨figures, rfl⟩).symm.trans received
        exact ⟨_, rfl, (loads_iff _).mpr (taken.mpr takes)⟩
  | resetPoints =>
      obtain rfl : some (before.onResetPoints now) = after := received
      rw [NoTrap]
      simp only [Option.mem_def, Option.some.injEq, exists_eq_left', loads_iff]
      exact fitsFrom_iff_of_nil rfl
  | clearData commits =>
      obtain ⟨screen, rfl⟩ := Option.isSome_iff_exists.mp (cleared commits rfl)
      obtain rfl := onClearData_eq_some received
      refine iff_of_true ⟨_, rfl, (loads_iff _).mpr ?_⟩ trivial
      have noRows : Fits 64 (([] : List ResponseRow).length : Int) := by decide
      apply (fitsFrom_iff_of_nil rfl).mpr
      rw [onResetPoints, DataManager.clearPoints, tables_settled]
      exact noRows
  | reopen previousMonthClock monthClock =>
      obtain ⟨second, third⟩ := ordered previousMonthClock monthClock rfl
      obtain ⟨points, loaded⟩ := Option.isSome_iff_exists.mp
        (loads now previousMonthClock monthClock forward second third)
      obtain rfl : some (PointsScreen.mk before.stores points monthClock) = after := by
        rw [← received]
        simp [receive, loaded]
      exact iff_of_true ⟨_, rfl, (loads_iff _).mpr (fits.later (le_trans second third))⟩ trivial

end PointsScreen

open PointsScreen

/-- Nothing traps in a run, and the totals load at the start and after every
event, exactly if the sums at the start and those of every event are in range. -/
theorem neverTraps_iff {device : Device}
    {history : List (Performed (Option PointsScreen) Timed)} {start : PointsScreen}
    {state : Option PointsScreen}
    (runs : Runs (TimedStep device) (some start) history state) :
    (Loads device start ∧ ∀ performed ∈ history, NoTrap device performed) ↔
      FitsFrom device start.clock start.stores ∧
        ∀ performed ∈ history, InRange device performed := by
  rw [loads_iff]
  refine and_congr_right fun fits => ?_
  refine runs.forall_iff (fun _ => True) (fun state => ∃ screen ∈ state, Loads device screen)
    trivial ⟨start, rfl, (loads_iff start).mpr fits⟩ (fun _ _ => trivial) (fun _ holds => holds) ?_
  rintro ⟨_, timed, after⟩ _ ⟨screen, ⟨⟩, loads⟩ step
  exact noTrap_iff loads step

/-- Over a response and a grant of two points, three are added, the screen is
opened again and the points are reset. -/
theorem neverTraps_iff_three :
    let device := Device.gmt ""
    let stores : Stores := ⟨⟨Tables.empty.insertResponse ⟨"7", "", seconds 86400⟩, none⟩,
      { presetPoints := some (.archive [.grant (seconds 86400) 2]) }⟩
    let start : PointsScreen := ⟨stores, getPoints device stores 0, 0⟩
    let added : PointsScreen := ⟨manuallyAdd 5 3 stores, start.points.increaseCurrent 3, 5⟩
    let opened : PointsScreen := ⟨added.stores, getPoints device added.stores 6, 6⟩
    let reset := opened.onResetPoints 7
    Loads device start ∧ ∀ performed ∈ [
      (⟨some start, ⟨.addPoints "3", 5⟩, some added⟩ : Performed (Option PointsScreen) Timed),
      ⟨some added, ⟨.reopen 6 6, 6⟩, some opened⟩,
      ⟨some opened, ⟨.resetPoints, 7⟩, some reset⟩],
        NoTrap device performed := by
  intro device stores start added opened reset
  have three : showAddPointsAlert "3" = 3 := by decide +kernel
  have figures : Fits 64 (start.points.all + 3) ∧ Fits 64 (start.points.currentMonth + 3) ∧
      Fits 64 (start.points.currentYear + 3) := by decide +kernel
  have fits : FitsFrom device start.clock start.stores :=
    fitsFrom_of_nonNegative (by decide) (by decide)
  have fitsAdded : FitsFrom device 5 (manuallyAdd 5 3 stores) :=
    fitsFrom_of_nonNegative (by decide) (by decide)
  have loaded : loadPoints? device added.stores.defaults added.stores.tables 6 6 6 =
      some opened.points :=
    loadPoints?_eq_some_iff.mpr ⟨fitsAdded 6 6 6 (by decide) le_rfl le_rfl, rfl⟩
  have adds : TimedStep device (some start) ⟨.addPoints "3", 5⟩ (some added) := by
    refine ⟨start, rfl, by decide, fun _ _ same => absurd same (by simp),
      fun _ same => absurd same (by simp), ?_⟩
    simp only [receive, three]
    exact onAddPoints_eq_some_iff.mpr ⟨figures, rfl⟩
  have reopens : TimedStep device (some added) ⟨.reopen 6 6, 6⟩ (some opened) := by
    refine ⟨added, rfl, by decide, ?_, fun _ same => absurd same (by simp), ?_⟩
    · rintro _ _ ⟨⟩
      exact ⟨le_rfl, le_rfl⟩
    · simp only [receive, loaded]
      rfl
  have resets : TimedStep device (some opened) ⟨.resetPoints, 7⟩ (some reset) :=
    ⟨opened, rfl, by decide, fun _ _ same => absurd same (by simp),
      fun _ same => absurd same (by simp), rfl⟩
  apply (neverTraps_iff (.step (.step (.step .initial adds) reopens) resets)).mpr
  simp only [List.nil_append, List.cons_append, List.forall_mem_cons]
  refine ⟨fits, ?_, ?_, ?_, by simp⟩
  · rintro screen ⟨⟩
    simp only [three]
    exact ⟨figures, (fitsFrom_manuallyAdd_iff 3 (fits.later (by decide))).mp fitsAdded⟩
  · rintro screen ⟨⟩
    trivial
  · rintro screen ⟨⟩
    decide

/-- The largest number and then one more. -/
theorem neverTraps_fails :
    ¬ ∀ history state,
      Runs (TimedStep (Device.gmt "")) (some ⟨Stores.empty, {}, 0⟩) history state →
      ∀ performed ∈ history, NoTrap (Device.gmt "") performed := by
  intro always
  let start : PointsScreen := ⟨Stores.empty, {}, 0⟩
  let largest : Int := 2 ^ 63 - 1
  let most : PointsScreen := ⟨manuallyAdd 5 largest Stores.empty, ⟨largest, largest, 0, largest⟩, 5⟩
  have first : TimedStep (Device.gmt "") (some start) ⟨.addPoints "9223372036854775807", 5⟩
      (some most) := by
    have entered : showAddPointsAlert "9223372036854775807" = largest := by decide +kernel
    refine ⟨start, rfl, by decide, fun _ _ same => absurd same (by simp),
      fun _ same => absurd same (by simp), ?_⟩
    simp only [receive, entered]
    exact onAddPoints_eq_some_iff.mpr ⟨by decide, rfl⟩
  have second : TimedStep (Device.gmt "") (some most) ⟨.addPoints "1", 6⟩ none := by
    have entered : showAddPointsAlert "1" = 1 := by decide +kernel
    have overflows : ¬ Fits 64 (most.points.all + 1) := by decide
    refine ⟨most, rfl, by decide, fun _ _ same => absurd same (by simp),
      fun _ same => absurd same (by simp), ?_⟩
    simp only [receive, entered, Option.eq_none_iff_forall_ne_some]
    intro after added
    exact overflows (onAddPoints_eq_some_iff.mp added).1.1
  obtain ⟨screen, missing, -⟩ := always _ _ (.step (.step .initial first) second)
    ⟨some most, ⟨.addPoints "1", 6⟩, none⟩ (by simp)
  exact absurd missing (by simp)

end ResponseTracker
