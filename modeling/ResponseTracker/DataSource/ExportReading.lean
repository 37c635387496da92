import ResponseTracker.DataSource.Export

/-!
# Reading the export back

The export writes every text as it is stored. `readsBack_iff` says that a reader
of comma-separated values finds the stored texts again exactly if none of those
exported contains a comma, a quote or a line break.
-/

namespace ResponseTracker

open DataManager

/-- A reader finds the header, a record for each exported response and a record
of four fields for each manually added point. -/
def ReadsBack (device : Device) (stores : Stores) (now : Date) : Prop :=
  ∃ text manual, csv device stores now = some text ∧
    Csv.readText text = some (headerRecord :: responseRecords device stores now ++ manual) ∧
    (manual.length : Int) = ((readGrants (getPresetPoints stores.defaults)).map Prod.snd).sum ∧
    ∀ record ∈ manual, record.length = 4

/-- The texts of every exported response read as they are written. -/
def PlainTexts (stores : Stores) : Prop :=
  ∀ row ∈ stores.tables.emergencies,
    ∀ response ∈ (stores.tables.emergencyAt row).exported (getLastClearPoints stores.defaults),
      Csv.Plain row.type.toList ∧ Csv.Plain response.incidentNumber.toList ∧
        Csv.Plain response.details.toList

instance (stores : Stores) : Decidable (PlainTexts stores) :=
  inferInstanceAs (Decidable (∀ row ∈ stores.tables.emergencies,
    ∀ response ∈ (stores.tables.emergencyAt row).exported (getLastClearPoints stores.defaults),
      Csv.Plain row.type.toList ∧ Csv.Plain response.incidentNumber.toList ∧
        Csv.Plain response.details.toList))

variable {device : Device} {stores : Stores} {now : Date}

/-- Every entry is a grant. -/
theorem NonNegative.wellFormed {entries : List PresetEntry} (nonNegative : NonNegative entries) :
    WellFormed entries := by
  intro entry member
  obtain ⟨grant, formed, -⟩ := nonNegative entry member
  exact Option.isSome_iff_exists.mpr ⟨grant, formed⟩

/-- No grant that is read is negative. -/
theorem NonNegative.readGrants {entries : List PresetEntry} (nonNegative : NonNegative entries) :
    ∀ grant ∈ readGrants entries, 0 ≤ grant.2 := by
  intro grant read
  have stored := List.mem_map_of_mem (f := some) read
  rw [readGrants_map nonNegative.wellFormed] at stored
  obtain ⟨entry, member, formed⟩ := List.mem_map.mp stored
  obtain ⟨other, otherFormed, positive⟩ := nonNegative entry member
  rw [formed, Option.some.injEq] at otherFormed
  rwa [otherFormed]

/-- There is one record for each manually added point. -/
theorem manualRecords_length {entries : List PresetEntry} (nonNegative : NonNegative entries) :
    ((manualRecords device entries).length : Int) = ((readGrants entries).map Prod.snd).sum := by
  have positive := nonNegative.readGrants
  rw [manualRecords]
  generalize ResponseTracker.readGrants entries = grants at positive
  induction grants with
  | nil => rfl
  | cons grant rest ih =>
      rw [List.flatMap_cons, List.length_append, List.length_replicate, Nat.cast_add,
        ih fun other member => positive other (List.mem_cons_of_mem _ member),
        Int.toNat_of_nonneg (positive grant List.mem_cons_self), List.map_cons, List.sum_cons]

/-- Manually added points have records of one kind. -/
theorem mem_manualRecords {entries : List PresetEntry} {record : List String}
    (member : record ∈ manualRecords device entries) :
    ∃ date, record = manualRecord device date := by
  obtain ⟨grant, -, copies⟩ := List.mem_flatMap.mp member
  exact ⟨grant.1, List.eq_of_mem_replicate copies⟩

/-- The records of responses are those of all emergencies' exported ones. -/
theorem mem_responseRecords {record : List String} :
    record ∈ responseRecords device stores now ↔ ∃ row ∈ stores.tables.emergencies,
      ∃ response ∈ (stores.tables.emergencyAt row).exported (getLastClearPoints stores.defaults),
        responseRecord device (stores.tables.emergencyAt row) response = record := by
  have sorted : (getEmergencyTypes device stores.defaults stores.tables now).Perm
      stores.tables.emergencies := List.perm_insertionSort _ _
  simp only [responseRecords, List.mem_flatMap, List.mem_map, sorted.mem_iff]

/-- Records of at least two fields are read from their lines exactly if they are plain. -/
theorem read_lines_iff {records more : List (List String)} {rest : List Char}
    (wide : ∀ record ∈ records, 2 ≤ record.length) :
    Csv.read .start (lines records ++ rest) =
        some ((records ++ more).map fun record => record.map String.toList) ↔
      (∀ record ∈ records, ∀ field ∈ record, Csv.Plain field.toList) ∧
        Csv.read .start rest = some (more.map fun record => record.map String.toList) := by
  rw [lines, List.map_append, Csv.read_lines_iff (by simpa using wide)]
  simp only [List.forall_mem_map]

section Texts

variable (dates : ∀ date, Csv.Plain (toString device date defaultDateFormat).toList)
include dates

/-- A response's record reads as it is written exactly if its stored texts do. -/
theorem plain_responseRecord_iff (emergency : Emergency) (response : Response) :
    (∀ field ∈ responseRecord device emergency response, Csv.Plain field.toList) ↔
      Csv.Plain emergency.type.toList ∧ Csv.Plain response.incidentNumber.toList ∧
        Csv.Plain response.details.toList := by
  simp [responseRecord, dates]

/-- The records of responses are plain exactly if all exported texts are. -/
theorem plain_responseRecords_iff :
    (∀ record ∈ responseRecords device stores now, ∀ field ∈ record, Csv.Plain field.toList) ↔
      PlainTexts stores := by
  constructor
  · intro plain row stored response exported
    exact (plain_responseRecord_iff dates _ response).mp
      (plain _ (mem_responseRecords.mpr ⟨row, stored, response, exported, rfl⟩))
  · intro plain record member
    obtain ⟨row, stored, response, exported, rfl⟩ := mem_responseRecords.mp member
    exact (plain_responseRecord_iff dates _ response).mpr (plain row stored response exported)

/-- The records of manually added points are plain. -/
theorem plain_manualRecord (date : Date) :
    ∀ field ∈ manualRecord device date, Csv.Plain field.toList := by
  have label : Csv.Plain "Manually added".toList := by decide
  have nothing : Csv.Plain "".toList := by decide
  simp only [manualRecord, List.forall_mem_cons, label, dates, nothing, true_and]
  exact fun field member => absurd member List.not_mem_nil

/-- The lines of manually added points are read back. -/
theorem read_manualRecords (entries : List PresetEntry) :
    Csv.read .start (lines (manualRecords device entries)) =
      some ((manualRecords device entries).map fun record => record.map String.toList) := by
  have wide : ∀ record ∈ manualRecords device entries, 2 ≤ record.length := by
    intro record member
    obtain ⟨date, rfl⟩ := mem_manualRecords member
    simp [manualRecord]
  have plain : ∀ record ∈ manualRecords device entries, ∀ field ∈ record,
      Csv.Plain field.toList := by
    intro record member
    obtain ⟨date, rfl⟩ := mem_manualRecords member
    exact plain_manualRecord dates date
  have ends : Csv.read .start [] =
      some (([] : List (List String)).map fun record => record.map String.toList) := rfl
  have reads := (read_lines_iff wide).mpr ⟨plain, ends⟩
  rwa [List.append_nil, List.append_nil] at reads

/-- The export is read back exactly if every exported text is plain. -/
theorem readsBack_iff (nonNegative : NonNegative (getPresetPoints stores.defaults)) :
    ReadsBack device stores now ↔ PlainTexts stores := by
  obtain ⟨text, built, characters⟩ := csv_toList device stores now nonNegative
  have header : ∀ field ∈ headerRecord, Csv.Plain field.toList := by decide
  have wide : ∀ record ∈ headerRecord :: responseRecords device stores now, 2 ≤ record.length := by
    intro record member
    rcases List.mem_cons.mp member with rfl | later
    · decide
    · obtain ⟨row, -, response, -, rfl⟩ := mem_responseRecords.mp later
      simp [responseRecord]
  have reads : ∀ manual, Csv.readText text =
      some (headerRecord :: responseRecords device stores now ++ manual) ↔
        PlainTexts stores ∧
          Csv.read .start (lines (manualRecords device (getPresetPoints stores.defaults))) =
            some (manual.map fun record => record.map String.toList) := by
    intro manual
    rw [Csv.readText_eq_some_iff, characters, read_lines_iff wide, List.forall_mem_cons,
      and_iff_right header, plain_responseRecords_iff dates, Csv.read_emptyLine]
  constructor
  · rintro ⟨other, manual, otherBuilt, read, -, -⟩
    rw [built, Option.some.injEq] at otherBuilt
    subst otherBuilt
    exact ((reads manual).mp read).1
  · intro plain
    refine ⟨text, _, built, (reads _).mpr ⟨plain, read_manualRecords dates _⟩,
      manualRecords_length nonNegative, ?_⟩
    intro record member
    obtain ⟨date, rfl⟩ := mem_manualRecords member
    rfl

end Texts

/-- A response and two manually added points, all of midnight on 1970-01-01. -/
theorem readsBack_iff_fire :
    ReadsBack (Device.gmt "1970-01-01 12:00 AM")
      ⟨⟨(Tables.empty.insertEmergency "Fire").appendNew 0 ⟨"7", "kitchen fire", 0⟩, none⟩,
        { presetPoints := some (.archive [PresetEntry.grant 0 2]) }⟩ (seconds 60) := by
  have plain : Csv.Plain "1970-01-01 12:00 AM".toList := by decide
  have dates : ∀ date, Csv.Plain (toString (Device.gmt "1970-01-01 12:00 AM")
    date defaultDateFormat).toList := fun _ => plain
  refine (readsBack_iff dates ?_).mpr (by decide +kernel)
  intro entry member
  obtain rfl := List.mem_singleton.mp member
  exact ⟨(0, 2), rfl, by decide⟩

/-- A comma in an emergency type becomes a field boundary. -/
theorem readsBack_fails :
    ¬ ReadsBack (Device.gmt "1970-01-01 12:00 AM")
      ⟨⟨(Tables.empty.insertEmergency "Fire, indoors").appendNew 0 ⟨"7", "", 0⟩, none⟩, {}⟩
      (seconds 60) := by
  rintro ⟨text, manual, built, read, -, -⟩
  have second := congrArg
    (fun found => (found.bind Csv.readText).map fun records => records[1]?) built
  simp only [Option.bind_some, read] at second
  have stored : responseRecords (Device.gmt "1970-01-01 12:00 AM")
      ⟨⟨(Tables.empty.insertEmergency "Fire, indoors").appendNew 0 ⟨"7", "", 0⟩, none⟩, {}⟩
      (seconds 60) =
        [["Fire, indoors", "7", "1970-01-01 12:00 AM", ""]] := by decide +kernel
  rw [stored, Option.map_some, List.cons_append, List.getElem?_cons_succ, List.cons_append,
    List.getElem?_cons_zero] at second
  exact absurd second (by decide +kernel)

end ResponseTracker
