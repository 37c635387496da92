import ResponseTracker.DataSource.Frame
import ResponseTracker.Std.Book

/-!
# The emergencies as a book

What the database is for: a book with a page for each emergency, on which its
responses are entered in order. `book_refines` says that every run of operations
that stores fresh objects is one of the book, and `page_history` that what an
emergency presents is the work of the operations on it alone.
-/

namespace ResponseTracker

open DataManager Execution Book

/-- What an emergency shows: its type and its responses with their keys. -/
abbrev EmergencyPage := Page String RowKey Response
/-- The pages of all emergencies by key. -/
abbrev EmergencyBook := Pages RowKey String RowKey Response
/-- A change of the book. -/
abbrev EmergencyChange := Change RowKey String RowKey Response

/-- A stored response as an entry of a page. -/
def ResponseRow.entry (row : ResponseRow) : RowKey × Response := (row.key, row.value)

namespace Tables

variable (tables : Tables)

/-- The page of an emergency: its links resolved, in their order. -/
def page (row : EmergencyRow) : EmergencyPage where
  name := row.type
  entries := (row.responses.filterMap tables.response?).map ResponseRow.entry

/-- The book that the tables hold. -/
def book : EmergencyBook := fun key => (tables.emergency? key).map tables.page

end Tables

/-- New responses with the keys they are stored under. -/
def numbered (first : RowKey) (values : List Response) : List (RowKey × Response) :=
  (values.zipIdx first).map Prod.swap

/-- The change of the book that a mutation of fresh objects makes. -/
def Mutation.change (nextKey : RowKey) : Mutation → Option EmergencyChange
  | .addEmergency (.unmanaged value) =>
      some (.insert nextKey ⟨value.type, numbered (nextKey + 1) value.responses⟩)
  | .addEmergency (.managed _) => none
  | .addResponse (.unmanaged value) emergency => some (.append emergency nextKey value)
  | .addResponse (.managed _) _ => none
  | .removeResponse response _ => some (.erase response)
  | .updateResponse response newValue => some (.replace response newValue)
  | .updateEmergency emergency newName => some (.rename emergency newName)
  | .removeEmergency emergency => some (.remove emergency)
  | .clearAllData => some .clear

/-- The change of the book that an operation makes. -/
def bookChange (device : Device) (performed : Performed Stores Operation) :
    Option EmergencyChange :=
  match performed.action.action with
  | .mutate mutation =>
      if mutation.rejected device performed.before.tables then none
      else mutation.change performed.before.tables.nextKey
  | _ => none

namespace Tables

variable {tables others : Tables} {key link : RowKey} {row : EmergencyRow}

/-! ## Pages -/

/-- The pages shows what the emergency presents. -/
theorem page_values (row : EmergencyRow) :
    (tables.page row).entries.map Prod.snd = (tables.emergencyAt row).responses := by
  simp [page, emergencyAt, List.map_filterMap, Function.comp_def, ResponseRow.entry]

/-- A page depends on the rows its links lead to only. -/
theorem page_congr (same : ∀ link ∈ row.responses, others.response? link = tables.response? link) :
    others.page row = tables.page row := by
  rw [page, page, List.filterMap_congr same]

/-- The items of a page are the links of its emergency. -/
theorem page_items (member : row ∈ tables.emergencies) :
    (tables.page row).items = row.responses := by
  have keys : ∀ link ∈ row.responses,
      ((tables.response? link).map ResponseRow.entry).map Prod.fst = some link := by
    intro link linked
    obtain ⟨response, stored, rfl⟩ := link_stored member linked
    rw [response?_of_mem stored]
    rfl
  simp only [Page.items, page, List.map_filterMap]
  rw [List.filterMap_congr keys, List.filterMap_some]

/-- A key leads to the stored emergency that has it, and to no other. -/
theorem emergency?_eq_some_iff :
    tables.emergency? key = some row ↔ row ∈ tables.emergencies ∧ row.key = key := by
  constructor
  · exact emergency?_eq_some
  · rintro ⟨stored, rfl⟩
    exact emergency?_of_mem stored

/-- The pages of the book are those of the stored emergencies. -/
theorem book_eq_some_iff {shown : EmergencyPage} :
    tables.book key = some shown ↔ ∃ row ∈ tables.emergencies, row.key = key ∧
      tables.page row = shown := by
  simp only [book, Option.map_eq_some_iff, emergency?_eq_some_iff, and_assoc]

/-- There is a page exactly for each valid emergency. -/
theorem book_ne_none_iff : tables.book key ≠ none ↔ (tables.emergency? key).isSome := by
  rw [book, ne_eq, Option.map_eq_none_iff, ← ne_eq, Option.isSome_iff_ne_none]

/-- The book holds what is in some list. -/
theorem holds_iff : Holds tables.book link ↔ ∃ row ∈ tables.emergencies, link ∈ row.responses := by
  constructor
  · rintro ⟨key, shown, found, held⟩
    obtain ⟨row, member, -, rfl⟩ := book_eq_some_iff.mp found
    rw [page_items member] at held
    exact ⟨row, member, held⟩
  · rintro ⟨row, member, linked⟩
    refine ⟨row.key, tables.page row, book_eq_some_iff.mpr ⟨row, member, rfl, rfl⟩, ?_⟩
    rwa [page_items member]

/-- Where every response is in a list, the book holds all of them. -/
theorem Owned.holds (owned : tables.Owned) (stored : (tables.response? link).isSome) :
    Holds tables.book link := by
  obtain ⟨response, member, rfl⟩ := List.mem_map.mp (response?_isSome.mp stored)
  obtain ⟨row, present, once, -⟩ := owned.exactlyOnce response member
  refine holds_iff.mpr ⟨row, present, ?_⟩
  exact List.count_pos_iff.mp (by omega)

/-- Keys not yet given are not in the book. -/
theorem not_holds_of_le (fresh : tables.nextKey ≤ link) : ¬ Holds tables.book link := by
  rw [holds_iff]
  rintro ⟨row, member, linked⟩
  obtain ⟨response, stored, rfl⟩ := link_stored member linked
  exact absurd (tables.responses_allocated response stored) (Nat.not_lt.mpr fresh)

/-- There is no page yet for the key given next. -/
theorem book_nextKey : tables.book tables.nextKey = none := by
  by_contra present
  obtain ⟨row, member, same⟩ := List.mem_map.mp
    (emergency?_isSome.mp (book_ne_none_iff.mp present))
  exact absurd same (Nat.ne_of_lt (tables.emergencies_allocated row member))

/-! ## What the changes of the tables do to the book -/

/-- Where rows keep their keys, an emergency is found where it was. -/
theorem emergency?_map {change : EmergencyRow → EmergencyRow}
    (rows : others.emergencies = tables.emergencies.map change)
    (keeps : ∀ row, (change row).key = row.key) :
    others.emergency? key = (tables.emergency? key).map change := by
  rw [emergency?, emergency?, rows, List.find?_map]
  simp only [Function.comp_def, keeps]

/-- Where rows keep their keys, a page changes as its row does. -/
theorem book_map {change : EmergencyRow → EmergencyRow} {turned : EmergencyPage → EmergencyPage}
    (rows : others.emergencies = tables.emergencies.map change)
    (keeps : ∀ row, (change row).key = row.key)
    (pages : ∀ row ∈ tables.emergencies, row.key = key →
      others.page (change row) = turned (tables.page row)) :
    others.book key = (tables.book key).map turned := by
  rw [book, book, emergency?_map rows keeps, Option.map_map, Option.map_map]
  refine Option.map_congr fun row leads => ?_
  obtain ⟨member, same⟩ := emergency?_eq_some leads
  exact pages row member same

/-- Where a page stays, the book stays there. -/
theorem book_congr {change : EmergencyRow → EmergencyRow}
    (rows : others.emergencies = tables.emergencies.map change)
    (keeps : ∀ row, (change row).key = row.key)
    (pages : ∀ row ∈ tables.emergencies, row.key = key →
      others.page (change row) = id (tables.page row)) : others.book key = tables.book key := by
  rw [book_map rows keeps pages, Option.map_id_apply]

/-! ### New rows -/

/-- A new response is on no page until it is linked. -/
theorem insertResponse_page (member : row ∈ tables.emergencies) (value : Response) :
    (tables.insertResponse value).page row = tables.page row := by
  refine page_congr fun link linked => ?_
  exact insertResponse_response? value (tables.links_stored row member link linked)

/-- A new response is found under its key. -/
theorem insertResponse_response?_nextKey (value : Response) :
    (tables.insertResponse value).response? tables.nextKey = some ⟨tables.nextKey, value⟩ :=
  response?_eq_some_iff.mpr ⟨List.mem_append_right _ (List.mem_singleton_self _), rfl⟩

/-- A new response that is linked is the last entry of the page. -/
theorem appendNew_page (member : row ∈ tables.emergencies) (value : Response) :
    (tables.insertResponse value).page ⟨row.key, row.type, row.responses ++ [tables.nextKey]⟩ =
      { tables.page row with
        entries := (tables.page row).entries ++ [(tables.nextKey, value)] } := by
  rw [← insertResponse_page member value, page, page, List.filterMap_append,
    List.filterMap_cons_some (insertResponse_response?_nextKey value), List.map_append]
  rfl

/-- Appending a new response is an entry at the end of one page. -/
theorem appendNew_book (emergency : RowKey) (value : Response) :
    (tables.appendNew emergency value).book =
      (Change.append emergency tables.nextKey value).apply tables.book := by
  have rows : (tables.appendNew emergency value).emergencies =
      tables.emergencies.map (updatedRow emergency id (· ++ [tables.nextKey])) := rfl
  funext key
  rw [Change.apply, Change.onPage]
  by_cases here : emergency = key
  · rw [if_pos here]
    refine book_map rows (updatedRow_key _ _ _) fun row member same => ?_
    rw [updatedRow, if_pos (by simp [same, here])]
    exact appendNew_page member value
  · rw [if_neg here]
    refine book_congr rows (updatedRow_key _ _ _) fun row member same => ?_
    rw [updatedRow_of_ne fun other => here (other.symm.trans same)]
    exact insertResponse_page member value

/-- What is appended is the last response the emergency presents. -/
theorem appendNew_presents {emergency : RowKey}
    (found : tables.emergency? emergency = some row) (value : Response) :
    ∃ left, (tables.appendNew emergency value).emergency? emergency = some left ∧
      (tables.appendNew emergency value).emergencyAt left =
        ⟨row.type, (tables.emergencyAt row).responses ++ [value]⟩ := by
  obtain ⟨member, rfl⟩ := emergency?_eq_some found
  let left : EmergencyRow := ⟨row.key, row.type, row.responses ++ [tables.nextKey]⟩
  have updated : updatedRow row.key id (· ++ [tables.nextKey]) row = left := by
    simp [updatedRow, left]
  have stored : left ∈ (tables.appendNew row.key value).emergencies :=
    updated ▸ List.mem_map_of_mem member
  have page : (tables.appendNew row.key value).page left =
      { tables.page row with
        entries := (tables.page row).entries ++ [(tables.nextKey, value)] } :=
    appendNew_page member value
  have responses : _ = ((tables.appendNew row.key value).emergencyAt left).responses :=
    page_values left
  rw [page, List.map_append, page_values] at responses
  exact ⟨left, emergency?_of_mem stored, congrArg (Emergency.mk row.type) responses.symm⟩

/-- A new emergency is a page without entries. -/
theorem insertEmergency_book (type : String) :
    (tables.insertEmergency type).book =
      (Change.insert tables.nextKey ⟨type, []⟩).apply tables.book := by
  funext key
  have found : (tables.insertEmergency type).emergency? key =
      (tables.emergency? key).or
        (if tables.nextKey = key then some ⟨tables.nextKey, type, []⟩ else none) := by
    rw [emergency?, insertEmergency, List.find?_append, ← emergency?, List.find?_singleton]
    simp only [beq_iff_eq]
  rw [book, found, Change.apply, Change.onPage]
  by_cases here : tables.nextKey = key
  · subst here
    have absent := Option.map_eq_none_iff.mp tables.book_nextKey
    rw [absent, if_pos rfl, if_pos rfl]
    rfl
  · rw [if_neg here, if_neg here, Option.or_none]
    rfl

/-- New responses are entered in turn. -/
theorem appendAll_book (emergency : RowKey) (values : List Response) :
    (values.foldl (fun stored value => stored.appendNew emergency value) tables).book =
      (numbered tables.nextKey values).foldl
        (fun book entry => (Change.append emergency entry.1 entry.2).apply book) tables.book := by
  induction values generalizing tables with
  | nil => rfl
  | cons value rest ih =>
      rw [List.foldl_cons, ih, appendNew_book]
      rfl

/-- Entering a list of responses on a new page is entering a page with them. -/
theorem foldl_append_insert (book : EmergencyBook) (emergency : RowKey) (type : String)
    (entries more : List (RowKey × Response)) :
    more.foldl (fun book entry => (Change.append emergency entry.1 entry.2).apply book)
        ((Change.insert emergency ⟨type, entries⟩).apply book) =
      (Change.insert emergency ⟨type, entries ++ more⟩).apply book := by
  induction more generalizing entries with
  | nil => rw [List.foldl_nil, List.append_nil]
  | cons entry rest ih =>
      have entered : (Change.append emergency entry.1 entry.2).apply
          ((Change.insert emergency ⟨type, entries⟩).apply book) =
            (Change.insert emergency ⟨type, entries ++ [entry]⟩).apply book := by
        funext key
        by_cases here : emergency = key
        · simp [Change.apply, Change.onPage, here]
        · simp [Change.apply, Change.onPage, here]
      rw [List.foldl_cons, entered, ih, List.append_assoc, List.singleton_append]

/-- Adding an emergency with its responses is entering a page with them. -/
theorem addEmergency_book (value : Emergency) :
    (value.responses.foldl (fun stored response => stored.appendNew tables.nextKey response)
        (tables.insertEmergency value.type)).book =
      (Change.insert tables.nextKey
        ⟨value.type, numbered (tables.nextKey + 1) value.responses⟩).apply tables.book := by
  rw [appendAll_book, insertEmergency_book, foldl_append_insert, List.nil_append]
  rfl

/-! ### Changed rows -/

/-- A new type is a new name of the page. -/
theorem setType_book (emergency : RowKey) (type : String) (stored) :
    (tables.updateEmergency emergency (fun _ => type) id stored).book =
      (Change.rename emergency type).apply tables.book := by
  have rows : (tables.updateEmergency emergency (fun _ => type) id stored).emergencies =
      tables.emergencies.map (updatedRow emergency (fun _ => type) id) := rfl
  funext key
  rw [Change.apply, Change.onPage]
  by_cases here : emergency = key
  · rw [if_pos here]
    refine book_map rows (updatedRow_key _ _ _) fun row member same => ?_
    rw [updatedRow, if_pos (by simp [same, here])]
    rfl
  · rw [if_neg here]
    refine book_congr rows (updatedRow_key _ _ _) fun row member same => ?_
    rw [updatedRow_of_ne fun other => here (other.symm.trans same)]
    rfl

/-- A changed response is found changed, and all others as they were. -/
theorem updateResponse_response?_eq (response : RowKey) (change : Response → Response)
    (link : RowKey) :
    (tables.updateResponse response change).response? link =
      (tables.response? link).map (changedRow response change) := by
  rw [response?, response?, updateResponse, List.find?_map]
  simp only [Function.comp_def, changedRow_key]

/-- The entry of a changed row is the replaced entry. -/
theorem changedRow_entry (response : RowKey) (value : Response) (row : ResponseRow) :
    (changedRow response (fun _ => value) row).entry = replaced response value row.entry := by
  by_cases here : row.key = response
  · simp [changedRow, replaced, ResponseRow.entry, here]
  · simp [changedRow, replaced, ResponseRow.entry, here]

/-- Changing a response replaces its entry wherever it is. -/
theorem updateResponse_book (response : RowKey) (value : Response) :
    (tables.updateResponse response fun _ => value).book =
      (Change.replace response value).apply tables.book := by
  have rows : (tables.updateResponse response fun _ => value).emergencies =
      tables.emergencies.map id := (List.map_id _).symm
  funext key
  refine book_map rows (fun _ => rfl) fun row member same => ?_
  simp only [page, id_eq, List.map_filterMap, updateResponse_response?_eq, Option.map_map,
    Function.comp_def, changedRow_entry]

/-! ### Deleted rows -/

/-- A page without deleted responses. -/
theorem deleteResponses_page (dead : RowKey → Bool) (row : EmergencyRow) :
    (tables.deleteResponses dead).page (unlinkedRow dead row) =
      { tables.page row with
        entries := (tables.page row).entries.filter fun entry => !dead entry.1 } := by
  have found : ∀ link ∈ (unlinkedRow dead row).responses,
      (tables.deleteResponses dead).response? link = tables.response? link := fun link linked =>
    deleteResponses_response? (by simpa using (List.mem_filter.mp linked).2)
  have kept : ∀ link, (if !dead link then tables.response? link else none) =
      (tables.response? link).filter fun response => !dead response.entry.1 := by
    intro link
    cases leads : tables.response? link with
    | none => simp
    | some response =>
        obtain ⟨-, rfl⟩ := response?_eq_some leads
        simp [Option.filter, ResponseRow.entry]
  rw [page, List.filterMap_congr found, unlinkedRow, page, List.filter_map, List.filter_filterMap,
    List.filterMap_filter]
  simp only [kept, Function.comp_def]

/-- Deleting a response erases its entry from every page. -/
theorem deleteResponses_book (response : RowKey) :
    (tables.deleteResponses (· == response)).book = (Change.erase response).apply tables.book := by
  have rows : (tables.deleteResponses (· == response)).emergencies =
      tables.emergencies.map (unlinkedRow (· == response)) := rfl
  funext key
  refine book_map rows (unlinkedRow_key _) fun row member same => ?_
  rw [deleteResponses_page]
  exact Page.ext rfl (List.filter_congr fun entry _ => by simp [Bool.beq_eq_decide_eq])

/-- A deleted emergency is not found, and all others are. -/
theorem deleteEmergency_emergency? (emergency : RowKey) :
    (tables.deleteEmergency emergency).emergency? key =
      if emergency = key then none else tables.emergency? key := by
  ext row
  simp only [emergency?_eq_some_iff, deleteEmergency, RowTable.mem_moveLastOver]
  by_cases here : emergency = key
  · simp [here]
  · rw [if_neg here, emergency?_eq_some_iff]
    grind

/-- Removing an emergency with its responses removes its page. -/
theorem Owned.removeEmergency_book (owned : tables.Owned) (member : row ∈ tables.emergencies) :
    ((tables.deleteResponses (row.responses.contains ·)).deleteEmergency row.key).book =
      (Change.remove row.key).apply tables.book := by
  have rows : (tables.deleteResponses (row.responses.contains ·)).emergencies =
      tables.emergencies.map (unlinkedRow (row.responses.contains ·)) := rfl
  funext key
  rw [book, deleteEmergency_emergency?, Change.apply, Change.onPage]
  by_cases here : row.key = key
  · rw [if_pos here, if_pos here, Option.map_none]
  · rw [if_neg here, if_neg here]
    -- Responses in the list of the emergency are on no other page.
    refine book_congr rows (unlinkedRow_key _) fun other otherMember same => ?_
    have apart : ∀ entry ∈ (tables.page other).entries,
        (!row.responses.contains entry.1) = true := by
      intro entry entered
      have linked : entry.1 ∈ other.responses := by
        rw [← page_items otherMember]
        exact List.mem_map_of_mem entered
      have different : row.key ≠ other.key := fun sameKey => here (sameKey.trans same)
      simpa using owned.notMem_of_ne otherMember member different linked
    rw [deleteResponses_page, List.filter_eq_self.mpr apart]
    rfl

end Tables

/-! ## Operations on the book -/

section Requested

variable {tables contents : Tables} {mutation : Mutation}

/-- New responses are numbered in turn. -/
theorem numbered_items (first : RowKey) (values : List Response) :
    (numbered first values).map Prod.fst = List.range' first values.length := by
  rw [numbered, List.map_map]
  exact List.zipIdx_map_snd first values

/-- A mutation of fresh objects is the change it makes of the book. -/
theorem Mutation.requested_book (owned : tables.Owned) (fresh : mutation.Fresh)
    (asked : mutation.requested tables = some contents) :
    ∃ change, mutation.change tables.nextKey = some change ∧
      Change.Step tables.book change contents.book := by
  cases mutation with
  | addEmergency emergency =>
      cases emergency with
      | unmanaged value =>
          obtain rfl := Option.some.inj asked
          refine ⟨_, rfl, ⟨tables.book_nextKey, ?_, ?_⟩, Tables.addEmergency_book value⟩
          · rw [Page.items, numbered_items]
            exact List.nodup_range'
          · intro item new
            rw [Page.items, numbered_items] at new
            exact Tables.not_holds_of_le (Nat.le_of_succ_le (List.left_le_of_mem_range' new))
      | managed key => exact absurd fresh id
  | addResponse response emergency =>
      obtain ⟨key, appended⟩ := requested_addResponse asked
      rcases Tables.append_eq_some appended with ⟨⟨row, found⟩, ⟨value, rfl, rfl, -⟩ | ⟨-, rfl, -⟩⟩
      · have stored := Tables.book_ne_none_iff.mpr (Option.isSome_iff_exists.mpr ⟨row, found⟩)
        exact ⟨_, rfl, ⟨stored, Tables.not_holds_of_le le_rfl⟩,
          Tables.appendNew_book emergency value⟩
      · exact absurd fresh id
  | removeResponse response emergency =>
      have stored := asked
      simp only [requested, Option.bind_eq_bind, Option.bind_eq_some_iff] at stored
      obtain ⟨-, -, row, found, -⟩ := stored
      obtain rfl := requested_removeResponse asked
      exact ⟨_, rfl, owned.holds (Option.isSome_iff_exists.mpr ⟨row, found⟩),
        Tables.deleteResponses_book response⟩
  | updateResponse response newValue =>
      have stored := asked
      simp only [requested, Tables.setResponse, Option.bind_eq_bind, Option.bind_eq_some_iff]
        at stored
      obtain ⟨row, found, -⟩ := stored
      obtain rfl := Tables.setResponse_eq_some asked
      exact ⟨_, rfl, owned.holds (Option.isSome_iff_exists.mpr ⟨row, found⟩),
        Tables.updateResponse_book response newValue⟩
  | updateEmergency emergency newName =>
      obtain ⟨row, found, rfl⟩ := Tables.setType_eq_some asked
      exact ⟨_, rfl, Tables.book_ne_none_iff.mpr (Option.isSome_iff_exists.mpr ⟨row, found⟩),
        Tables.setType_book emergency newName _⟩
  | removeEmergency emergency =>
      obtain ⟨row, found, rfl⟩ := requested_removeEmergency asked
      obtain ⟨member, rfl⟩ := Tables.emergency?_eq_some found
      exact ⟨_, rfl, Tables.book_ne_none_iff.mpr (Option.isSome_iff_exists.mpr ⟨row, found⟩),
        owned.removeEmergency_book member⟩
  | clearAllData =>
      obtain rfl := Option.some.inj asked
      exact ⟨_, rfl, trivial, rfl⟩

end Requested

variable {device : Device} {history : List (Performed Stores Operation)} {stores : Stores}

/-- The stores refine the book their tables are. -/
theorem stores_refine_book (device : Device) :
    Refines (Operation.FreshStep device) Change.Step (fun stores => stores.tables.Owned)
      (fun stores => stores.tables.book) (bookChange device) where
  preserved := Operation.FreshStep.owned
  follows := by
    intro before operation after owned fresh
    obtain ⟨step, fresh⟩ := fresh
    rw [bookChange]
    cases action : operation.action with
    | mutate mutation =>
        rw [action] at fresh
        obtain ⟨contents, asked, rfl, -⟩ := step.mutate_cases device action
        rw [tables_settled, Mutation.staged]
        cases rejected : mutation.rejected device before.tables with
        | true => simp only [rejected, if_true]; exact rfl
        | false =>
            obtain ⟨change, changes, entered⟩ := Mutation.requested_book owned fresh asked
            simp only [rejected, Bool.false_eq_true, if_false, changes]
            exact entered
    | manuallyAdd points =>
        rw [step.manuallyAdd_eq device action]
        exact rfl
    | clearPoints =>
        rw [step.clearPoints_eq device action]
        exact rfl

/-- A run as a run of the book. -/
def bookHistory (device : Device) (history : List (Performed Stores Operation)) :
    List (Performed EmergencyBook EmergencyChange) :=
  seen (fun stores => stores.tables.book) (bookChange device) history

/-- Every run from the empty store that stores fresh objects is, through the
book of its tables, a run of allowed changes from the empty book. -/
theorem book_refines (runs : Runs (Operation.FreshStep device) Stores.empty history stores) :
    Runs Change.Step (fun _ => none) (bookHistory device history) stores.tables.book := by
  have owned : Stores.empty.tables.Owned := Tables.empty_owned
  exact (stores_refine_book device).runs owned runs

/-- A response is added to an emergency and replaced. -/
theorem book_refines_fire :
    let fire := Tables.empty.insertEmergency "Fire"
    let added := fire.appendNew 0 ⟨"7", "", 3⟩
    let changed := added.updateResponse 1 fun _ => ⟨"8", "", 3⟩
    Runs Change.Step (fun _ => none)
      [⟨Tables.empty.book, .insert 0 ⟨"Fire", []⟩, fire.book⟩,
        ⟨fire.book, .append 0 1 ⟨"7", "", 3⟩, added.book⟩,
        ⟨added.book, .replace 1 ⟨"8", "", 3⟩, changed.book⟩] changed.book := by
  intro fire added changed
  have first : Operation.FreshStep (Device.gmt "") Stores.empty
      ⟨.mutate (.addEmergency (.unmanaged ⟨"Fire", []⟩)), 0, true, [succeeded]⟩
      ⟨⟨fire, none⟩, {}⟩ := ⟨rfl, trivial⟩
  have second : Operation.FreshStep (Device.gmt "") ⟨⟨fire, none⟩, {}⟩
      ⟨.mutate (.addResponse (.unmanaged ⟨"7", "", 3⟩) 0), 3, true, [succeeded]⟩
      ⟨⟨added, none⟩, {}⟩ := ⟨rfl, trivial⟩
  have third : Operation.FreshStep (Device.gmt "") ⟨⟨added, none⟩, {}⟩
      ⟨.mutate (.updateResponse 1 ⟨"8", "", 3⟩), 4, true, [succeeded]⟩
      ⟨⟨changed, none⟩, {}⟩ := ⟨rfl, trivial⟩
  exact book_refines (.step (.step (.step .initial first) second) third)

/-- What an emergency presents is what the operations on it have made of it, in
their order: operations on other emergencies, wherever they come between, are
not among them. -/
theorem page_history (runs : Runs (Operation.FreshStep device) Stores.empty history stores)
    {row : EmergencyRow} (member : row ∈ stores.tables.emergencies) :
    ∃ page, (changesOn row.key (bookHistory device history)).foldl
        (fun page? change => change.onPage row.key page?) none = some page ∧
      stores.tables.emergencyAt row = ⟨page.name, page.entries.map Prod.snd⟩ := by
  have shown : stores.tables.book row.key = some (stores.tables.page row) :=
    Tables.book_eq_some_iff.mpr ⟨row, member, rfl, rfl⟩
  refine ⟨stores.tables.page row, ?_, ?_⟩
  · rw [← shown]
    exact (page_eq (book_refines runs) row.key).symm
  · rw [Tables.page_values]
    rfl

/-- Of two emergencies the first has the response that was added to it. -/
theorem page_history_fire :
    let fire := Tables.empty.insertEmergency "Fire"
    let flood := fire.insertEmergency "Flood"
    let added := flood.appendNew 0 ⟨"7", "", 3⟩
    ∃ page : EmergencyPage,
      [(.insert 0 ⟨"Fire", []⟩ : EmergencyChange), .append 0 2 ⟨"7", "", 3⟩].foldl
        (fun page? change => change.onPage 0 page?) none = some page ∧
      added.emergencyAt ⟨0, "Fire", [2]⟩ = ⟨page.name, page.entries.map Prod.snd⟩ := by
  intro fire flood added
  have first : Operation.FreshStep (Device.gmt "") Stores.empty
      ⟨.mutate (.addEmergency (.unmanaged ⟨"Fire", []⟩)), 0, true, [succeeded]⟩
      ⟨⟨fire, none⟩, {}⟩ := ⟨rfl, trivial⟩
  have second : Operation.FreshStep (Device.gmt "") ⟨⟨fire, none⟩, {}⟩
      ⟨.mutate (.addEmergency (.unmanaged ⟨"Flood", []⟩)), 1, true, [succeeded]⟩
      ⟨⟨flood, none⟩, {}⟩ := ⟨rfl, trivial⟩
  have third : Operation.FreshStep (Device.gmt "") ⟨⟨flood, none⟩, {}⟩
      ⟨.mutate (.addResponse (.unmanaged ⟨"7", "", 3⟩) 0), 3, true, [succeeded]⟩
      ⟨⟨added, none⟩, {}⟩ := ⟨rfl, trivial⟩
  exact page_history (.step (.step (.step .initial first) second) third) List.mem_cons_self

end ResponseTracker
