import ResponseTracker.DataSource.MonthWindows
import ResponseTracker.DataSource.Mutations
import ResponseTracker.DataSource.Clock
import ResponseTracker.Std.Execution

/-!
# A reset is permanent

While the clock does not go back, a reset stays in force: the stored reset is
never earlier, and the stored grants are those made since the latest one
(`reset_permanent`). The invariant is `ResetSince`; the counting functions ask
only for the reset it provides, whatever the instant.
-/

namespace ResponseTracker

open DataManager Execution Window

/-- The stores and the last reading of the clock. -/
structure Clocked where
  stores : Stores
  clock : Date

/-- An operation at the same or a later reading of the clock. -/
def Clocked.Step (device : Device) (before : Clocked) (operation : Operation)
    (after : Clocked) : Prop :=
  before.clock ≤ operation.now ∧ operation.Step device before.stores after.stores ∧
    after.clock = operation.now

/-- The operation resets the points. -/
def Operation.Resets (operation : Operation) : Prop :=
  operation.action = .clearPoints ∨ operation.action = .mutate .clearAllData

/-- The grants made since the latest reset, after one more operation. -/
def grantsMade (made : List PresetEntry) (operation : Operation) : List PresetEntry :=
  match operation.action with
  | .manuallyAdd points => made ++ [PresetEntry.grant operation.now points]
  | .clearPoints | .mutate .clearAllData => []
  | .mutate _ => made

/-- The grants a series of operations makes after the latest reset among them. -/
def grantsSince (operations : List Operation) : List PresetEntry := operations.foldl grantsMade []

/-- What a response in an emergency's list contributes to one of its points. -/
def listShare (device : Device) (defaults : UserDefaults) (instant : Date) (field : Points → Int)
    (emergency : Emergency) (index : Nat) : Int :=
  field (emergency.getPoints device defaults instant instant) -
    field (Emergency.getPoints device defaults instant instant
      { emergency with responses := emergency.responses.eraseIdx index })

/-- At every instant, responses dated before the reset contribute to none of the
points of a period. -/
structure Forgets (device : Device) (reset : Date) (stores : Stores) : Prop where
  totals : ∀ instant, ∀ row ∈ stores.tables.responses, row.value.date < reset →
    ∀ field ∈ [Points.currentYear, Points.currentMonth, Points.previousMonth],
      responseShare device stores.defaults stores.tables instant field row.key = 0
  lists : ∀ instant, ∀ row ∈ stores.tables.emergencies, ∀ index response,
    (stores.tables.emergencyAt row).responses[index]? = some response → response.date < reset →
    ∀ field ∈ [Points.currentYear, Points.currentMonth],
      listShare device stores.defaults instant field (stores.tables.emergencyAt row) index = 0

/-- The stored grants are those made since the latest reset, and none is hidden
by that reset. -/
structure Keeps (operations : List Operation) (stores : Stores) : Prop where
  grants : getPresetPoints stores.defaults = grantsSince operations
  dated : ∃ reset, stores.defaults.lastPointReset = some reset ∧
    ∀ entry ∈ getPresetPoints stores.defaults, ∃ grant, entry.grant? = some grant ∧ reset ≤ grant.1

/-- A reset at `since` or later is stored, and no grant is dated before it. -/
def ResetSince (since : Date) (state : Clocked) : Prop :=
  ∃ reset, state.stores.defaults.lastPointReset = some reset ∧ since ≤ reset ∧
    reset ≤ state.clock ∧
    ∀ entry ∈ getPresetPoints state.stores.defaults,
      ∃ grant, entry.grant? = some grant ∧ reset ≤ grant.1

section Counting

variable {device : Device} {defaults : UserDefaults} {tables : Tables} {instant since : Date}

/-- Every bound of the counting is at the reset or later. -/
theorem le_bounds (device : Device) (instant : Date) {reset : Date}
    (stored : defaults.lastPointReset = some reset) (later : since ≤ reset) :
    since ≤ yearBound device defaults.lastPointReset instant ∧
      since ≤ monthBound device defaults.lastPointReset instant ∧
      since ≤ previousMonthBound device defaults.lastPointReset instant := by
  have clamps : ∀ start, since ≤ clamped defaults.lastPointReset start := fun start =>
    le_trans later (((clamped_le_iff _ start _).mp le_rfl).2 reset stored)
  exact ⟨clamps _, clamps _, clamps _⟩

/-- A response dated before all bounds is counted in no period. -/
theorem responseShare_eq_zero {row : ResponseRow} (stored : row ∈ tables.responses)
    (year : row.value.date < yearBound device defaults.lastPointReset instant)
    (month : row.value.date < monthBound device defaults.lastPointReset instant)
    (previousMonth : row.value.date < previousMonthBound device defaults.lastPointReset instant) :
    ∀ field ∈ [Points.currentYear, Points.currentMonth, Points.previousMonth],
      responseShare device defaults tables instant field row.key = 0 := by
  simp only [List.forall_mem_cons, responseShare, loadPoints_eq,
    total_perm (responseEntries_perm_delete stored), total_cons]
  simp [year, month, previousMonth]

/-- A response dated before a bound is not among those counted since it. -/
theorem countSince_eraseIdx {responses : List Response} {index : Nat} {response : Response}
    {bound : Date} (found : responses[index]? = some response) (before : response.date < bound) :
    countSince bound (responses.eraseIdx index) = countSince bound responses := by
  obtain ⟨within, rfl⟩ := List.getElem?_eq_some_iff.mp found
  rw [← countSince_perm bound (List.getElem_cons_eraseIdx_perm within)]
  simp [countSince, before]

theorem listShare_eq_zero {emergency : Emergency} {index : Nat} {response : Response}
    (found : emergency.responses[index]? = some response)
    (year : response.date < yearBound device defaults.lastPointReset instant)
    (month : response.date < monthBound device defaults.lastPointReset instant) :
    ∀ field ∈ [Points.currentYear, Points.currentMonth],
      listShare device defaults instant field emergency index = 0 := by
  have years := countSince_eraseIdx found year
  have months := countSince_eraseIdx found month
  rw [yearBound] at years
  rw [monthBound] at months
  simp [listShare, Emergency.getPoints, years, months]

end Counting

variable {device : Device} {since : Date}

/-- Under a reset, whatever is dated before it is forgotten. -/
theorem ResetSince.forgets {state : Clocked} (under : ResetSince since state) :
    Forgets device since state.stores := by
  obtain ⟨reset, stored, later, -, -⟩ := under
  refine ⟨fun instant row member before => ?_, fun instant row member index response found before =>
    ?_⟩
  · obtain ⟨year, month, previousMonth⟩ :=
      le_bounds device instant stored later
    exact responseShare_eq_zero member (before.trans_le year) (before.trans_le month)
      (before.trans_le previousMonth)
  · obtain ⟨year, month, -⟩ := le_bounds device instant stored later
    exact listShare_eq_zero found (before.trans_le year) (before.trans_le month)

/-- A reset puts itself in force and leaves no grant. -/
theorem Clocked.Step.resets {before after : Clocked} {operation : Operation}
    (step : Clocked.Step device before operation after) (resets : operation.Resets) :
    getPresetPoints after.stores.defaults = [] ∧ ResetSince operation.now after := by
  obtain ⟨-, performed, clock⟩ := step
  have defaults : after.stores.defaults =
      setLastClearPoints operation.now (clearPresetPoints before.stores.defaults) := by
    rw [performed.defaults_eq]
    rcases resets with action | action
    · rw [Operation.defaultsAfter, action]
    · rw [Operation.defaultsAfter, action]
      rfl
  have nothing : getPresetPoints after.stores.defaults = [] := by
    rw [defaults]
    rfl
  refine ⟨nothing, operation.now, by rw [defaults]; rfl, le_rfl, clock.ge, ?_⟩
  rw [nothing]
  simp

/-- No operation moves the reset back or dates a grant before it. -/
theorem ResetSince.step {before after : Clocked} {operation : Operation}
    (under : ResetSince since before) (step : Clocked.Step device before operation after) :
    ResetSince since after := by
  obtain ⟨reset, stored, later, begun, dated⟩ := under
  obtain ⟨forward, performed, clock⟩ := step
  have defaults := performed.defaults_eq
  cases action : operation.action with
  | mutate mutation =>
      by_cases clears : mutation = .clearAllData
      · subst clears
        obtain ⟨-, now, same, least, rest⟩ :=
          Clocked.Step.resets ⟨forward, performed, clock⟩ (.inr action)
        exact ⟨now, same, le_trans (le_trans later begun) (le_trans forward least), rest⟩
      · have unchanged : after.stores.defaults = before.stores.defaults := by
          rw [defaults, Operation.defaultsAfter, action]
          cases mutation <;> first | rfl | exact absurd rfl clears
        refine ⟨reset, ?_, later, ?_, ?_⟩
        · rw [unchanged, stored]
        · rw [clock]
          exact le_trans begun forward
        · rw [unchanged]
          exact dated
  | manuallyAdd points =>
      rw [Operation.defaultsAfter, action] at defaults
      refine ⟨reset, ?_, later, ?_, ?_⟩
      · rw [defaults, stored]
      · rw [clock]
        exact le_trans begun forward
      · intro entry member
        rw [defaults] at member
        rcases List.mem_append.mp member with old | new
        · exact dated entry old
        · obtain rfl := List.mem_singleton.mp new
          exact ⟨(operation.now, points), rfl, le_trans begun forward⟩
  | clearPoints =>
      obtain ⟨-, now, same, least, rest⟩ :=
        Clocked.Step.resets ⟨forward, performed, clock⟩ (.inl action)
      exact ⟨now, same, le_trans (le_trans later begun) (le_trans forward least), rest⟩

/-- The stored grants change as the operations say. -/
theorem Operation.Step.grantsMade {before after : Stores} {operation : Operation}
    (step : operation.Step device before after) :
    getPresetPoints after.defaults =
      ResponseTracker.grantsMade (getPresetPoints before.defaults) operation := by
  rw [step.defaults_eq, Operation.defaultsAfter, ResponseTracker.grantsMade]
  cases action : operation.action with
  | mutate mutation => cases mutation <;> rfl
  | manuallyAdd points => rfl
  | clearPoints => rfl

/-- After a reset, through any operations while the clock does not go back: at
every instant the responses dated before the reset count in no period, and the
stored grants are those made since the latest reset, dated at it or later. -/
theorem reset_permanent {before start state : Clocked} {operation : Operation}
    {later : List (Performed Clocked Operation)}
    (resets : operation.Resets) (step : Clocked.Step device before operation start)
    (runs : Runs (Clocked.Step device) start later state) :
    Forgets device operation.now state.stores ∧
      Keeps (later.map Performed.action) state.stores := by
  obtain ⟨nothing, under⟩ := step.resets resets
  have here := (runs.invariant (ResetSince operation.now)
    (fun under step => under.step step) under).1
  have grants := runs.foldl_eq (fun state => getPresetPoints state.stores.defaults) grantsMade
    fun step => step.2.1.grantsMade
  rw [nothing] at grants
  obtain ⟨reset, stored, -, -, dated⟩ := id here
  exact ⟨here.forgets, grants, reset, stored, dated⟩

/-- A response and a grant of January, a reset and another grant in February. -/
theorem reset_permanent_february :
    let tables := Tables.empty.insertResponse ⟨"7", "", seconds 86400⟩
    let before : Stores := ⟨⟨tables, none⟩, { presetPoints := some (.archive [.grant 5 3]) }⟩
    let start := DataManager.clearPoints (seconds (40 * 86400)) before
    let added : Operation := ⟨.manuallyAdd 2, seconds (41 * 86400), true, []⟩
    let state := manuallyAdd added.now 2 start
    Forgets (Device.gmt "") (seconds (40 * 86400)) state ∧ Keeps [added] state := by
  intro tables before start added state
  have reset : Clocked.Step (Device.gmt "") ⟨before, 0⟩
      ⟨.clearPoints, seconds (40 * 86400), true, []⟩ ⟨start, seconds (40 * 86400)⟩ :=
    ⟨by decide, rfl, rfl⟩
  have later : Clocked.Step (Device.gmt "") ⟨start, seconds (40 * 86400)⟩ added
      ⟨state, seconds (41 * 86400)⟩ := ⟨by decide, rfl, rfl⟩
  exact reset_permanent (.inl rfl) reset (.step .initial later)

end ResponseTracker
