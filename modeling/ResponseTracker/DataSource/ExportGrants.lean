import ResponseTracker.DataSource.ExportReading
import ResponseTracker.DataSource.Reset
import ResponseTracker.Utils.AlertFactory

/-!
# Exporting the grants of a run

Every grant the program stores passes the casts of the export. Its loop over
`0..<points` traps on a negative number, so `exportsGrants_iff` says that the
export completes exactly while no negative number has been entered since the
latest reset.
-/

namespace ResponseTracker

open AlertFactory DataManager Execution

/-- An operation whose points, if it adds any, come from the add-points dialog. -/
def Operation.DialogStep (device : Device) (before : Stores) (operation : Operation)
    (after : Stores) : Prop :=
  operation.Step device before after ∧
    ∀ points, operation.action = .manuallyAdd points → ∃ text, showAddPointsAlert text = points

/-- Every entry passes the casts, and the export runs to its end with one row
for each point. -/
structure ExportsGrants (device : Device) (defaults : UserDefaults) : Prop where
  casts : WellFormed (getPresetPoints defaults)
  completes : ∃ text records, manuallyAddedToCSV device defaults = some text ∧
    text.toList = '\n' :: lines records ∧
    (∀ record ∈ records, ∃ date, record = manualRecord device date) ∧
    (records.length : Int) = ((readGrants (getPresetPoints defaults)).map Prod.snd).sum

variable {device : Device}

/-- The loop comes to its end only if every range is well formed. -/
theorem nonNegative_of_completes {entries : List PresetEntry} {start text : String}
    (completes : entries.foldlM (appendManuallyAdded device) start = some text) :
    NonNegative entries := by
  induction entries generalizing start with
  | nil => exact fun _ member => absurd member List.not_mem_nil
  | cons entry rest ih =>
      rw [List.foldlM_cons, Option.bind_eq_bind, Option.bind_eq_some_iff] at completes
      obtain ⟨added, appended, later⟩ := completes
      refine List.forall_mem_cons.mpr ⟨?_, ih later⟩
      simp only [appendManuallyAdded, Option.bind_eq_bind, Option.bind_eq_some_iff] at appended
      obtain ⟨points, counted, date, dated, ranged⟩ := appended
      split at ranged
      · exact absurd ranged (by simp)
      · next notNegative =>
          refine ⟨(date, points), ?_, not_lt.mp notNegative⟩
          simp [PresetEntry.grant?, dated, counted]

/-- The grants of a list are exported exactly if none is negative. -/
theorem exportsGrants_iff_nonNegative (defaults : UserDefaults) :
    ExportsGrants device defaults ↔ NonNegative (getPresetPoints defaults) := by
  constructor
  · intro exports
    obtain ⟨text, records, completes, -⟩ := exports.completes
    exact nonNegative_of_completes completes
  · intro nonNegative
    obtain ⟨text, completes, characters⟩ := foldlM_appendManuallyAdded device nonNegative "\n"
    refine ⟨nonNegative.wellFormed, text, _, completes, characters, ?_,
      manualRecords_length nonNegative⟩
    exact fun record member => mem_manualRecords member

/-- In every run that begins without grants and adds points through the dialog,
the grants can be exported exactly if all points added since the latest reset
are nonnegative. -/
theorem exportsGrants_iff {start stores : Stores} {history : List (Performed Stores Operation)}
    (runs : Runs (Operation.DialogStep device) start history stores)
    (noGrants : start.defaults.presetPoints = none) :
    ExportsGrants device stores.defaults ↔
      NonNegative (grantsSince (history.map Performed.action)) := by
  have nothing : getPresetPoints start.defaults = [] := by
    rw [getPresetPoints, noGrants]
    rfl
  have made := runs.foldl_eq (fun stores => getPresetPoints stores.defaults) grantsMade
    fun step => step.1.grantsMade
  rw [nothing] at made
  rw [exportsGrants_iff_nonNegative, made, grantsSince]

/-- Three points added after a reset. -/
theorem exportsGrants_iff_three :
    ExportsGrants (Device.gmt "1970-01-01 12:00 AM")
      { presetPoints := some (.archive [.grant 8 3]), lastPointReset := some 7 } := by
  have reset : Operation.DialogStep (Device.gmt "1970-01-01 12:00 AM") Stores.empty
      ⟨.clearPoints, 7, true, []⟩ ⟨⟨.empty, none⟩, { lastPointReset := some 7 }⟩ :=
    ⟨rfl, by simp⟩
  have added : Operation.DialogStep (Device.gmt "1970-01-01 12:00 AM")
      ⟨⟨.empty, none⟩, { lastPointReset := some 7 }⟩ ⟨.manuallyAdd 3, 8, true, []⟩
      ⟨⟨.empty, none⟩,
        { presetPoints := some (.archive [.grant 8 3]), lastPointReset := some 7 }⟩ := by
    refine ⟨rfl, fun points same => ?_⟩
    obtain rfl := Action.manuallyAdd.inj same
    exact ⟨"3", by decide +kernel⟩
  apply (exportsGrants_iff (.step (.step .initial reset) added) rfl).mpr
  intro entry member
  obtain rfl := List.mem_singleton.mp member
  exact ⟨(8, 3), rfl, by decide⟩

/-- After "-5" was entered, the export traps. -/
theorem exportsGrants_fails :
    ¬ ∀ history stores,
      Runs (Operation.DialogStep (Device.gmt "")) Stores.empty history stores →
      ExportsGrants (Device.gmt "") stores.defaults := by
  intro always
  have added : Operation.DialogStep (Device.gmt "") Stores.empty
      ⟨.manuallyAdd (showAddPointsAlert "-5"), 8, true, []⟩
      ⟨⟨.empty, none⟩, { presetPoints := some (.archive [.grant 8 (-5)]) }⟩ := by
    have delivers : showAddPointsAlert "-5" = -5 := by decide +kernel
    exact ⟨by rw [delivers]; rfl, fun points same => ⟨"-5", Action.manuallyAdd.inj same⟩⟩
  obtain ⟨text, records, completes, -⟩ := (always _ _ (.step .initial added)).completes
  obtain ⟨grant, formed, nonNegative⟩ :=
    nonNegative_of_completes completes _ (List.mem_singleton_self _)
  obtain rfl := Option.some.inj formed
  exact absurd nonNegative (by decide)

end ResponseTracker
