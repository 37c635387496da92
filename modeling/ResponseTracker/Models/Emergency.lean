import ResponseTracker.Models.Points
import ResponseTracker.Utils.DateExt
import Mathlib.Tactic.Order

/-!
# Emergencies and responses

The counting and the export of one emergency type. Both are restricted to what
lies after the last reset, but with different comparisons: the counting keeps a
response dated at the reset (`clamped` bounds are inclusive), the export skips
it (`skipped`).
-/

namespace ResponseTracker

/-- The properties of a `Response`. -/
structure Response where
  incidentNumber : String := ""
  details : String := ""
  date : Date
deriving DecidableEq

/-- `toCSV()`, the fields after the emergency's type. -/
def Response.toCSV (device : Device) (response : Response) : String :=
  response.incidentNumber ++ "," ++ toString device response.date defaultDateFormat ++ "," ++
    response.details

/-- The properties of an `Emergency`: its type and its responses in the order of the list. -/
structure Emergency where
  type : String := ""
  responses : List Response := []
deriving DecidableEq

/-- `start > lastReset ? start : lastReset` when there was a reset. -/
def clamped (lastReset : Option Date) (start : Date) : Date :=
  match lastReset with
  | some lastReset => if start > lastReset then start else lastReset
  | none => start

/-- The number of responses matching `date >= bound`. -/
def countSince (bound : Date) (responses : List Response) : Int :=
  (responses.filter fun response => decide (response.date ≥ bound)).length

namespace Emergency

/-- The two clock readings are those of `startOfYear` and `startOfMonth`. -/
def getPoints (device : Device) (defaults : UserDefaults) (yearClock monthClock : Date)
    (emergency : Emergency) : Points :=
  let startOfYear := clamped defaults.lastPointReset (startOfYear device.timeZone yearClock)
  let startOfMonth := clamped defaults.lastPointReset (startOfMonth device.timeZone monthClock)
  { currentYear := countSince startOfYear emergency.responses
    currentMonth := countSince startOfMonth emergency.responses
    previousMonth := 0
    all := emergency.responses.length }

/-- The export's loop passes over a response dated up to `sinceDate`. -/
def skipped (sinceDate : Option Date) (response : Response) : Bool :=
  match sinceDate with
  | some sinceDate => decide (response.date ≤ sinceDate)
  | none => false

/-- The two sides of the test `responses.last != responses`. -/
inductive Compared where
  | response (value : Response)
  | list (values : List Response)
deriving DecidableEq

def toCSV (device : Device) (sinceDate : Option Date) (emergency : Emergency) : String :=
  emergency.responses.foldl (fun csvString response =>
    if skipped sinceDate response then csvString
    else
      let csvString := csvString ++ (emergency.type ++ "," ++ response.toCSV device)
      -- A response is never equal to a list, so the newline follows every row.
      if emergency.responses.getLast?.map Compared.response ≠ some (.list emergency.responses) then
        csvString ++ "\n"
      else csvString) ""

/-- The responses the export does not skip. -/
def exported (sinceDate : Option Date) (emergency : Emergency) : List Response :=
  emergency.responses.filter fun response => !skipped sinceDate response

/-- The text of one exported row. -/
def csvRow (device : Device) (emergency : Emergency) (response : Response) : String :=
  emergency.type ++ "," ++ response.toCSV device ++ "\n"

end Emergency

/-- An instant is within a bound exactly if it is within the period and not before the reset. -/
theorem clamped_le_iff (lastReset : Option Date) (start date : Date) :
    clamped lastReset start ≤ date ↔ start ≤ date ∧ ∀ reset ∈ lastReset, reset ≤ date := by
  cases lastReset with
  | none => simp [clamped]
  | some reset =>
      simp only [clamped, Option.mem_def, Option.some.injEq, forall_eq']
      split
      · constructor
        · intro after
          exact ⟨after, by order⟩
        · exact And.left
      · constructor
        · intro after
          exact ⟨by order, after⟩
        · exact And.right

/-- Bounds are in the order of the beginnings. -/
theorem clamped_mono (lastReset : Option Date) {first next : Date} (ordered : first ≤ next) :
    clamped lastReset first ≤ clamped lastReset next := by
  obtain ⟨bounded, reset⟩ := (clamped_le_iff lastReset next _).mp le_rfl
  exact (clamped_le_iff _ _ _).mpr ⟨le_trans ordered bounded, reset⟩

/-- Bounds are the same for the same beginnings, and for any two that are not
after the reset. -/
theorem clamped_eq_iff (lastReset : Option Date) (start other : Date) :
    clamped lastReset start = clamped lastReset other ↔
      start = other ∨ ∃ reset ∈ lastReset, start ≤ reset ∧ other ≤ reset := by
  cases lastReset with
  | none => simp [clamped]
  | some reset =>
      simp only [clamped, Option.mem_def, Option.some.injEq, exists_eq_left']
      split_ifs <;> grind

/-- A count does not depend on the order of the responses. -/
theorem countSince_perm (bound : Date) {responses others : List Response}
    (perm : responses.Perm others) : countSince bound responses = countSince bound others := by
  rw [countSince, countSince, (perm.filter _).length_eq]

/-- Counts of two lists add up. -/
theorem countSince_append (bound : Date) (responses others : List Response) :
    countSince bound (responses ++ others) =
      countSince bound responses + countSince bound others := by
  simp [countSince]

/-- The rows of an emergency are the texts of its exported responses, in order. -/
theorem Emergency.toCSV_eq (device : Device) (sinceDate : Option Date) (emergency : Emergency) :
    emergency.toCSV device sinceDate =
      ((emergency.exported sinceDate).map (emergency.csvRow device)).foldl (· ++ ·) "" := by
  rw [exported, List.foldl_map, List.foldl_filter, toCSV]
  congr 1
  funext csvString response
  have differs : emergency.responses.getLast?.map Compared.response ≠
      some (.list emergency.responses) := by
    cases emergency.responses.getLast? <;> simp
  by_cases skip : skipped sinceDate response = true
  · simp [skip]
  · simp [skip, differs, csvRow, String.append_assoc]

end ResponseTracker
