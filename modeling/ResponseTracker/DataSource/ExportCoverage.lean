import ResponseTracker.DataSource.ExportReading
import ResponseTracker.DataSource.Ownership

/-!
# What the export leaves out

The totals count what is dated at the last reset or later, the export writes
what is dated after it. `sameReset_iff` says that in every reachable store they
agree exactly if no response is dated at the reset itself.
-/

namespace ResponseTracker

open DataManager Execution

/-- The clamp of the totals keeps a date out of every window. -/
def Excluded (lastReset : Option Date) (date : Date) : Prop :=
  ∀ start, ¬ clamped lastReset start ≤ date

theorem excluded_iff {lastReset : Option Date} {date : Date} :
    Excluded lastReset date ↔ ∃ reset ∈ lastReset, date < reset := by
  simp only [Excluded, clamped_le_iff, not_and, not_forall, not_le, exists_prop]
  constructor
  · intro excluded
    exact excluded date le_rfl
  · intro later _ _
    exact later

theorem skipped_iff {lastReset : Option Date} {response : Response} :
    Emergency.skipped lastReset response = true ↔ ∃ reset ∈ lastReset, response.date ≤ reset := by
  cases lastReset with
  | none => simp [Emergency.skipped]
  | some reset => simp [Emergency.skipped]

instance (lastReset : Option Date) (date : Date) : Decidable (Excluded lastReset date) :=
  match lastReset with
  | none => .isFalse (by simp [excluded_iff])
  | some reset => decidable_of_iff (date < reset) (by simp [excluded_iff])

/-- The exported responses with their emergencies, in the order of the rows. -/
def exportedLinks (device : Device) (stores : Stores) (now : Date) :
    List (EmergencyRow × ResponseRow) :=
  (getEmergencyTypes device stores.defaults stores.tables now).flatMap fun emergency =>
    ((emergency.responses.filterMap stores.tables.response?).filter fun response =>
      !Emergency.skipped (getLastClearPoints stores.defaults) response.value).map (emergency, ·)

/-- The export leaves out the responses the totals exclude, and has a row for
each other response and each manually added point. -/
structure SameReset (device : Device) (stores : Stores) (now : Date) : Prop where
  leftOut : ∀ response ∈ stores.tables.responses,
    response ∉ (exportedLinks device stores now).map Prod.snd ↔
      Excluded stores.defaults.lastPointReset response.value.date
  written : ∃ text, csv device stores now = some text ∧
    text.toList = lines (headerRecord :: (exportedLinks device stores now).map fun link =>
        responseRecord device (stores.tables.emergencyAt link.1) link.2.value) ++
      '\n' :: lines (manualRecords device (getPresetPoints stores.defaults))
  rows : ((exportedLinks device stores now).length : Int) +
      (manualRecords device (getPresetPoints stores.defaults)).length =
    (stores.tables.responses.filter fun response =>
        decide (¬ Excluded stores.defaults.lastPointReset response.value.date)).length +
      ((readGrants (getPresetPoints stores.defaults)).map Prod.snd).sum

/-- The stores with another last reset. -/
def Stores.withReset (stores : Stores) (lastReset : Option Date) : Stores :=
  { stores with defaults := { stores.defaults with lastPointReset := lastReset } }

section Links

variable {device : Device} {stores : Stores} {now : Date}

/-- The records of the responses are those of the exported links. -/
theorem responseRecords_eq : responseRecords device stores now =
    (exportedLinks device stores now).map fun link =>
      responseRecord device (stores.tables.emergencyAt link.1) link.2.value := by
  rw [responseRecords, exportedLinks, List.map_flatMap]
  refine List.flatMap_congr fun emergency _ => ?_
  have presented : (stores.tables.emergencyAt emergency).responses =
      (emergency.responses.filterMap stores.tables.response?).map ResponseRow.value :=
    (List.map_filterMap).symm
  simp only [Emergency.exported, presented, List.filter_map, List.map_map]
  rfl

/-- Every stored response is accessed by its key. -/
theorem filterMap_response? (tables : Tables) :
    (tables.responses.map ResponseRow.key).filterMap tables.response? = tables.responses := by
  rw [List.filterMap_map]
  have accessed : ∀ row ∈ tables.responses, (tables.response? ∘ ResponseRow.key) row = some row :=
    fun row stored => Tables.response?_of_mem stored
  rw [List.filterMap_congr accessed, List.filterMap_some]

/-- Through the lists of all emergencies the export reaches each response once. -/
theorem exportedLinks_perm (device : Device) (now : Date) (owned : stores.tables.Owned) :
    ((exportedLinks device stores now).map Prod.snd).Perm
      (stores.tables.responses.filter fun response =>
        !Emergency.skipped (getLastClearPoints stores.defaults) response.value) := by
  have sorted : (getEmergencyTypes device stores.defaults stores.tables now).Perm
      stores.tables.emergencies := List.perm_insertionSort _ _
  have reached := Ownership.Owned.values stores.tables.response? owned
  rw [filterMap_response?] at reached
  have links : (exportedLinks device stores now).map Prod.snd =
      ((getEmergencyTypes device stores.defaults stores.tables now).flatMap fun emergency =>
        emergency.responses.filterMap stores.tables.response?).filter fun response =>
          !Emergency.skipped (getLastClearPoints stores.defaults) response.value := by
    simp [exportedLinks, List.map_flatMap, List.filter_flatMap, Function.comp_def]
  rw [links]
  exact ((sorted.flatMap_right _).trans reached).filter _

/-- A stored response has no row exactly if it is dated up to the reset. -/
theorem notMem_exportedLinks (owned : stores.tables.Owned) {response : ResponseRow}
    (stored : response ∈ stores.tables.responses) :
    response ∉ (exportedLinks device stores now).map Prod.snd ↔
      ∃ reset ∈ stores.defaults.lastPointReset, response.value.date ≤ reset := by
  rw [(exportedLinks_perm device now owned).mem_iff, List.mem_filter, ← skipped_iff]
  simp [stored, getLastClearPoints]

/-- The export leaves out what the totals exclude exactly if no response is
dated at the reset. -/
theorem sameReset_iff_of_owned (owned : stores.tables.Owned)
    (nonNegative : NonNegative (getPresetPoints stores.defaults)) :
    SameReset device stores now ↔ ∀ response ∈ stores.tables.responses,
      ∀ reset ∈ stores.defaults.lastPointReset, response.value.date ≠ reset := by
  constructor
  · intro same response stored reset since atReset
    obtain ⟨other, otherSince, later⟩ := excluded_iff.mp ((same.leftOut response stored).mp
      ((notMem_exportedLinks owned stored).mpr ⟨reset, since, atReset.le⟩))
    obtain rfl := Option.mem_unique since otherSince
    exact later.ne atReset
  · intro apart
    have agree : ∀ response ∈ stores.tables.responses,
        Emergency.skipped (getLastClearPoints stores.defaults) response.value = true ↔
          Excluded stores.defaults.lastPointReset response.value.date := by
      intro response stored
      rw [skipped_iff, excluded_iff]
      constructor
      · rintro ⟨reset, since, upTo⟩
        exact ⟨reset, since, lt_of_le_of_ne upTo (apart response stored reset since)⟩
      · rintro ⟨reset, since, before⟩
        exact ⟨reset, since, before.le⟩
    refine ⟨fun response stored => ?_, ?_, ?_⟩
    · rw [← agree response stored, skipped_iff]
      exact notMem_exportedLinks owned stored
    · rw [← responseRecords_eq]
      exact csv_toList device stores now nonNegative
    · have reached := (exportedLinks_perm device now owned).length_eq
      have kept : stores.tables.responses.filter (fun response =>
            !Emergency.skipped (getLastClearPoints stores.defaults) response.value) =
          stores.tables.responses.filter fun response =>
            decide (¬ Excluded stores.defaults.lastPointReset response.value.date) := by
        refine List.filter_congr fun response stored => ?_
        rw [Bool.eq_iff_iff, Bool.not_eq_true', decide_eq_true_iff, ← agree response stored,
          Bool.not_eq_true]
      rw [List.length_map, kept] at reached
      rw [reached, manualRecords_length nonNegative]

end Links

/-- In every reachable store, and for every last reset, the export and the
totals mean the same by it exactly if no response is dated at it. -/
theorem sameReset_iff {device : Device} {history : List (Performed Stores Operation)}
    {stores : Stores}
    (runs : Runs (Operation.FreshStep device) Stores.empty history stores)
    (nonNegative : NonNegative (getPresetPoints stores.defaults))
    (lastReset : Option Date) (now : Date) :
    SameReset device (stores.withReset lastReset) now ↔
      ∀ response ∈ stores.tables.responses, ∀ reset ∈ lastReset, response.value.date ≠ reset := by
  have owned : stores.tables.Owned := runs_owned runs
  have ownedThere : (stores.withReset lastReset).tables.Owned := owned
  exact sameReset_iff_of_owned ownedThere nonNegative

/-- A response dated a second after the reset. -/
theorem sameReset_iff_fire :
    let tables := (Tables.empty.insertEmergency "Fire").appendNew 0 ⟨"7", "", seconds 61⟩
    let stores : Stores := ⟨⟨tables, none⟩, {}⟩
    SameReset (Device.gmt "1970-01-01 12:01 AM")
      (stores.withReset (some (seconds 60))) (seconds 120) := by
  intro tables stores
  have first : Operation.FreshStep (Device.gmt "1970-01-01 12:01 AM") Stores.empty
      ⟨.mutate (.addEmergency (.unmanaged ⟨"Fire", []⟩)), 0, true, [succeeded]⟩
      ⟨⟨Tables.empty.insertEmergency "Fire", none⟩, {}⟩ := ⟨rfl, trivial⟩
  have second : Operation.FreshStep (Device.gmt "1970-01-01 12:01 AM")
      ⟨⟨Tables.empty.insertEmergency "Fire", none⟩, {}⟩
      ⟨.mutate (.addResponse (.unmanaged ⟨"7", "", seconds 61⟩) 0), 0, true, [succeeded]⟩ stores :=
    ⟨rfl, trivial⟩
  refine (sameReset_iff (.step (.step .initial first) second) ?_ (some (seconds 60))
    (seconds 120)).mpr ?_
  · intro entry member
    exact absurd member List.not_mem_nil
  · decide +kernel

/-- A response dated at the reset counts, but has no row. -/
theorem sameReset_fails :
    ¬ ∀ history stores,
      Runs (Operation.FreshStep (Device.gmt "")) Stores.empty history stores →
        NonNegative (getPresetPoints stores.defaults) → ∀ lastReset now,
          SameReset (Device.gmt "") (stores.withReset lastReset) now := by
  intro always
  let one : Stores := ⟨⟨Tables.empty.insertEmergency "Fire", none⟩, {}⟩
  let two : Stores :=
    ⟨⟨(Tables.empty.insertEmergency "Fire").appendNew 0 ⟨"7", "", seconds 60⟩, none⟩, {}⟩
  have first : Operation.FreshStep (Device.gmt "") Stores.empty
      ⟨.mutate (.addEmergency (.unmanaged ⟨"Fire", []⟩)), 0, true, [succeeded]⟩ one :=
    ⟨rfl, trivial⟩
  have second : Operation.FreshStep (Device.gmt "") one
      ⟨.mutate (.addResponse (.unmanaged ⟨"7", "", seconds 60⟩) 0), 0, true, [succeeded]⟩ two :=
    ⟨rfl, trivial⟩
  have noGrants : NonNegative (getPresetPoints two.defaults) := fun entry member =>
    absurd member List.not_mem_nil
  have same := always _ _ (.step (.step .initial first) second) noGrants (some (seconds 60))
    (seconds 120)
  have rows := same.rows
  revert rows
  decide +kernel

end ResponseTracker
