import ResponseTracker.DataSource.Mutations
import ResponseTracker.DataSource.Tally
import ResponseTracker.Std.Csv

/-!
# The export

The text `export` builds from the stores, and its records: the header, a record
for each response the export does not skip, an empty line and a record for each
manually added point. `csv_toList` says that the text is these records, each in
one line and without quoting.
-/

namespace ResponseTracker

namespace DataManager

/-- One round of the loop over the manual grants. A cast that fails or a range
with a negative bound ends the process. -/
def appendManuallyAdded (device : Device) (csvString : String) (point : PresetEntry) :
    Option String := do
  let pointsValue ← point.int? "points"
  let date ← point.date? "date_added"
  if pointsValue < 0 then none
  else
    some ((List.range pointsValue.toNat).foldl
      (fun csvString _ => csvString ++
        ("Manually added," ++ "," ++ toString device date defaultDateFormat ++ "," ++ "\n"))
      csvString)

/-- `manuallyAddedToCSV()`, which begins with an empty line. -/
def manuallyAddedToCSV (device : Device) (defaults : UserDefaults) : Option String :=
  (getPresetPoints defaults).foldlM (appendManuallyAdded device) "\n"

/-- The name of the exported file. -/
def fileName : String := "EmergencyResponses.csv"

/-- The text of the exported file. -/
def csv (device : Device) (stores : Stores) (now : Date) : Option String := do
  let csv := "Emergency type, Incident number, Date, Details\n"
  let csv := (getEmergencyTypes device stores.defaults stores.tables now).foldl
    (fun csv emergency => csv ++
      (stores.tables.emergencyAt emergency).toCSV device (getLastClearPoints stores.defaults))
    csv
  let manuallyAdded ← manuallyAddedToCSV device stores.defaults
  some (csv ++ manuallyAdded)

/-- What the export presents: the written file, or a message. -/
inductive Presented where
  | exportActivity (fileName contents : String)
  | okAlert (message : String)
deriving DecidableEq

/-- `export`; whether the file can be written is an input. -/
def exportFile (device : Device) (stores : Stores) (now : Date) (writes : Bool) :
    Option Presented := do
  let csv ← csv device stores now
  if writes then some (.exportActivity fileName csv)
  else some (.okAlert DataError.errorExportingData.message)

end DataManager

open DataManager

/-! ## The records of the export -/

/-- The fields of the first line, which keep the blanks after its commas. -/
def headerRecord : List String := ["Emergency type", " Incident number", " Date", " Details"]

/-- The fields of a response's row. -/
def responseRecord (device : Device) (emergency : Emergency) (response : Response) : List String :=
  [emergency.type, response.incidentNumber, toString device response.date defaultDateFormat,
    response.details]

/-- The fields of the row of a manually added point. -/
def manualRecord (device : Device) (date : Date) : List String :=
  ["Manually added", "", toString device date defaultDateFormat, ""]

/-- The records of the exported responses, by emergencies in the order of the list. -/
def responseRecords (device : Device) (stores : Stores) (now : Date) : List (List String) :=
  (getEmergencyTypes device stores.defaults stores.tables now).flatMap fun row =>
    let emergency := stores.tables.emergencyAt row
    (emergency.exported (getLastClearPoints stores.defaults)).map (responseRecord device emergency)

/-- The records of the manual grants, one for each point. -/
def manualRecords (device : Device) (entries : List PresetEntry) : List (List String) :=
  (readGrants entries).flatMap fun grant =>
    List.replicate grant.2.toNat (manualRecord device grant.1)

/-- Every stored grant has a date and a number of points that is not negative. -/
def NonNegative (entries : List PresetEntry) : Prop :=
  ∀ entry ∈ entries, ∃ grant, entry.grant? = some grant ∧ 0 ≤ grant.2

/-- The text of records, each in one line and without quoting. -/
def lines (records : List (List String)) : List Char :=
  (records.map fun record => record.map String.toList).flatMap Csv.line

@[simp] theorem lines_nil : lines [] = [] := rfl

@[simp] theorem lines_cons (record : List String) (records : List (List String)) :
    lines (record :: records) = Csv.line (record.map String.toList) ++ lines records := rfl

@[simp] theorem lines_append (records more : List (List String)) :
    lines (records ++ more) = lines records ++ lines more := by
  simp [lines]

/-- Texts appended in a loop. -/
theorem toList_foldl_append {Item : Type} (text : Item → String) (items : List Item)
    (start : String) :
    (items.foldl (fun csvString item => csvString ++ text item) start).toList =
      start.toList ++ items.flatMap fun item => (text item).toList := by
  induction items generalizing start with
  | nil => simp
  | cons item rest ih =>
      rw [List.foldl_cons, ih, String.toList_append, List.append_assoc, List.flatMap_cons]

variable (device : Device)

/-- The row of a response is the line of its record. -/
theorem csvRow_toList (emergency : Emergency) (response : Response) :
    (emergency.csvRow device response).toList =
      Csv.line ((responseRecord device emergency response).map String.toList) := by
  simp [Emergency.csvRow, Response.toCSV, responseRecord, Csv.line]

/-- The rows of an emergency are the lines of its exported responses. -/
theorem toCSV_toList (sinceDate : Option Date) (emergency : Emergency) :
    (emergency.toCSV device sinceDate).toList =
      lines ((emergency.exported sinceDate).map (responseRecord device emergency)) := by
  rw [Emergency.toCSV_eq, List.foldl_map, toList_foldl_append, lines, List.map_map,
    List.flatMap_map]
  simp only [csvRow_toList, String.toList_empty, List.nil_append, Function.comp_apply]

/-- The lines of records collected from items are those of each item in turn. -/
theorem lines_flatMap {Item : Type} (records : Item → List (List String)) (items : List Item) :
    lines (items.flatMap records) = items.flatMap fun item => lines (records item) := by
  induction items with
  | nil => rfl
  | cons item rest ih => rw [List.flatMap_cons, lines_append, ih, List.flatMap_cons]

/-- The lines of equal records are one line repeated. -/
theorem lines_replicate (count : Nat) (record : List String) :
    lines (List.replicate count record) =
      (List.range count).flatMap fun _ => Csv.line (record.map String.toList) := by
  simp [lines, List.flatMap_def, List.map_const']

/-- A grant has a date and points. -/
theorem date?_int?_of_grant? {entry : PresetEntry} {grant : Date × Int}
    (formed : entry.grant? = some grant) :
    entry.date? "date_added" = some grant.1 ∧ entry.int? "points" = some grant.2 := by
  simp only [PresetEntry.grant?, Option.bind_eq_bind, Option.bind_eq_some_iff, Option.some.injEq]
    at formed
  obtain ⟨date, dated, points, counted, rfl⟩ := formed
  exact ⟨dated, counted⟩

/-- The row of a manually added point. -/
theorem manualRow_toList (date : Date) :
    ("Manually added," ++ "," ++ toString device date defaultDateFormat ++ "," ++ "\n").toList =
      Csv.line ((manualRecord device date).map String.toList) := by
  simp [manualRecord, Csv.line]

/-- A grant that is not negative is exported in as many rows as it has points. -/
theorem appendManuallyAdded_toList (csvString : String) {entry : PresetEntry} {grant : Date × Int}
    (formed : entry.grant? = some grant) (nonNegative : 0 ≤ grant.2) :
    ∃ text, appendManuallyAdded device csvString entry = some text ∧
      text.toList = csvString.toList ++
        lines (List.replicate grant.2.toNat (manualRecord device grant.1)) := by
  obtain ⟨dated, counted⟩ := date?_int?_of_grant? formed
  have appended : appendManuallyAdded device csvString entry =
      some ((List.range grant.2.toNat).foldl
        (fun csvString _ => csvString ++
          ("Manually added," ++ "," ++ toString device grant.1 defaultDateFormat ++ "," ++ "\n"))
        csvString) := by
    rw [appendManuallyAdded, counted, dated]
    exact if_neg (not_lt.mpr nonNegative)
  refine ⟨_, appended, ?_⟩
  rw [toList_foldl_append, lines_replicate]
  simp only [manualRow_toList]

/-- The loop over the grants writes the rows of all of them. -/
theorem foldlM_appendManuallyAdded {entries : List PresetEntry} (nonNegative : NonNegative entries)
    (csvString : String) :
    ∃ text, entries.foldlM (appendManuallyAdded device) csvString = some text ∧
      text.toList = csvString.toList ++ lines (manualRecords device entries) := by
  induction entries generalizing csvString with
  | nil => exact ⟨csvString, rfl, by simp [manualRecords, readGrants]⟩
  | cons entry rest ih =>
      obtain ⟨grant, formed, positive⟩ := nonNegative entry List.mem_cons_self
      obtain ⟨added, appended, addedText⟩ :=
        appendManuallyAdded_toList device csvString formed positive
      obtain ⟨text, folded, restText⟩ :=
        ih (fun other member => nonNegative other (List.mem_cons_of_mem _ member)) added
      refine ⟨text, by rw [List.foldlM_cons, appended]; exact folded, ?_⟩
      have read : manualRecords device (entry :: rest) =
          List.replicate grant.2.toNat (manualRecord device grant.1) ++
            manualRecords device rest := by
        simp [manualRecords, readGrants, formed]
      rw [restText, addedText, List.append_assoc, read, lines_append]

/-- The text of the export is that of its records, with an empty line before
the manually added points. -/
theorem csv_toList (stores : Stores) (now : Date)
    (nonNegative : NonNegative (getPresetPoints stores.defaults)) :
    ∃ text, csv device stores now = some text ∧
      text.toList = lines (headerRecord :: responseRecords device stores now) ++
        '\n' :: lines (manualRecords device (getPresetPoints stores.defaults)) := by
  obtain ⟨manual, added, text⟩ := foldlM_appendManuallyAdded device nonNegative "\n"
  rw [← manuallyAddedToCSV] at added
  refine ⟨_, by rw [csv, added]; rfl, ?_⟩
  rw [String.toList_append, toList_foldl_append, text, lines_cons, responseRecords, lines_flatMap]
  simp only [toCSV_toList]
  rfl

end ResponseTracker
