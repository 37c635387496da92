import ResponseTracker.DataSource.Mutations
import ResponseTracker.Std.Execution

/-!
# Unique emergency types

Adding an emergency of a stored type is rejected, but renaming one to such a
type is not. `uniqueTypes_iff` says that the types stay unique in exactly the
runs that give no emergency the type of another.
-/

namespace ResponseTracker

open DataManager Execution

/-- No two stored emergencies have equal types. -/
def UniqueTypes (device : Device) (tables : Tables) : Prop :=
  ∀ left ∈ tables.emergencies, ∀ right ∈ tables.emergencies, left.key ≠ right.key →
    device.sameText left.type right.type = false

/-- A step leaves the types unique. If what it asks for would not, it is
rejected and leaves the stores unchanged. -/
structure KeepsTypesUnique (device : Device) (performed : Performed Stores Operation) : Prop where
  unique : UniqueTypes device performed.after.tables
  rejects : ∀ mutation contents, performed.action.action = .mutate mutation →
    mutation.requested performed.before.tables = some contents → ¬ UniqueTypes device contents →
      performed.action.calls.head? = some ⟨false, some .alreadyExists⟩ ∧
        performed.after.tables = performed.before.tables ∧
        performed.after.defaults = performed.before.defaults

/-- A step that renames an emergency does not give it the type of another. -/
def RenamesApart (device : Device) (performed : Performed Stores Operation) : Prop :=
  ∀ emergency newName, performed.action.action = .mutate (.updateEmergency emergency newName) →
    ∀ other ∈ performed.before.tables.emergencies, other.key ≠ emergency →
      device.sameText other.type newName = false

namespace Tables

/-- The keys and the types of the stored emergencies. -/
def named (tables : Tables) : List (RowKey × String) :=
  tables.emergencies.map fun row => (row.key, row.type)

variable {device : Device} {tables contents : Tables}

/-- Uniqueness is about the keys and types alone. -/
theorem uniqueTypes_iff_named : UniqueTypes device tables ↔
    ∀ left ∈ tables.named, ∀ right ∈ tables.named, left.1 ≠ right.1 →
      device.sameText left.2 right.2 = false := by
  simp only [UniqueTypes, named, List.forall_mem_map]

/-- Types stay unique when there are fewer of them. -/
theorem unique_of_subset (unique : UniqueTypes device tables)
    (fewer : contents.named ⊆ tables.named) :
    UniqueTypes device contents := by
  rw [uniqueTypes_iff_named] at unique ⊢
  intro left leftMember right rightMember
  exact unique left (fewer leftMember) right (fewer rightMember)

/-- An update changes the type of one emergency at most. -/
theorem updateEmergency_named (key : RowKey) (type : String → String)
    (links : List RowKey → List RowKey) (stored) :
    (tables.updateEmergency key type links stored).named =
      tables.named.map fun entry => if entry.1 = key then (entry.1, type entry.2) else entry := by
  simp only [named, updateEmergency, List.map_map]
  refine List.map_congr_left fun row _ => ?_
  simp only [Function.comp_apply, updatedRow, beq_iff_eq]
  split <;> rfl

/-- Appending a new response changes no type. -/
@[simp] theorem appendNew_named (key : RowKey) (value : Response) :
    (tables.appendNew key value).named = tables.named := by
  rw [appendNew, updateEmergency_named]
  simp [insertResponse, named]

/-- Linking a stored response changes no type. -/
@[simp] theorem appendStored_named (key link : RowKey) (stored) :
    (tables.appendStored key link stored).named = tables.named := by
  rw [appendStored, updateEmergency_named]
  simp

/-- Appending several responses changes no type. -/
theorem appendAll_named (key : RowKey) (values : List Response) :
    (values.foldl (fun stored value => stored.appendNew key value) tables).named =
      tables.named := by
  induction values generalizing tables with
  | nil => rfl
  | cons value rest ih => rw [List.foldl_cons, ih, appendNew_named]

/-- Deleting responses changes no type. -/
@[simp] theorem deleteResponses_named (dead : RowKey → Bool) :
    (tables.deleteResponses dead).named = tables.named := by
  simp [named, deleteResponses, unlinkedRow]

/-- Deleting an emergency adds none. -/
theorem deleteEmergency_named (key : RowKey) :
    (tables.deleteEmergency key).named ⊆ tables.named := by
  intro entry member
  obtain ⟨row, stored, rfl⟩ := List.mem_map.mp member
  exact List.mem_map_of_mem (RowTable.mem_moveLastOver.mp stored).1

/-- A new emergency of a type that is not taken. -/
theorem insertEmergency_unique {type : String} (unique : UniqueTypes device tables)
    (available : tables.taken device type = false) :
    UniqueTypes device (tables.insertEmergency type) := by
  have apart : ∀ row ∈ tables.emergencies, device.sameText row.type type = false := by
    simpa [taken] using available
  intro left leftMember right rightMember different
  rcases List.mem_append.mp leftMember with oldLeft | newLeft
  · rcases List.mem_append.mp rightMember with oldRight | newRight
    · exact unique left oldLeft right oldRight different
    · rw [List.mem_singleton.mp newRight]
      exact apart left oldLeft
  · rcases List.mem_append.mp rightMember with oldRight | newRight
    · rw [List.mem_singleton.mp newLeft, device.sameText_comm]
      exact apart right oldRight
    · rw [List.mem_singleton.mp newLeft, List.mem_singleton.mp newRight] at different
      exact absurd rfl different

/-- A renaming keeps the types unique exactly if no other emergency has the new type. -/
theorem setType_unique_iff {key : RowKey} {type : String} (unique : UniqueTypes device tables)
    (set : tables.setType key type = some contents) :
    UniqueTypes device contents ↔
      ∀ other ∈ tables.emergencies, other.key ≠ key → device.sameText other.type type = false := by
  obtain ⟨row, found, rfl⟩ := setType_eq_some set
  obtain ⟨stored, rfl⟩ := emergency?_eq_some found
  constructor
  · intro still other member different
    have renamed := still (updatedRow row.key (fun _ => type) id other) (List.mem_map_of_mem member)
      (updatedRow row.key (fun _ => type) id row) (List.mem_map_of_mem stored)
    simpa [updatedRow, different] using renamed
  · intro apart left leftMember right rightMember different
    obtain ⟨left, leftStored, rfl⟩ := List.mem_map.mp leftMember
    obtain ⟨right, rightStored, rfl⟩ := List.mem_map.mp rightMember
    rw [updatedRow_key, updatedRow_key] at different
    by_cases leftRenamed : left.key = row.key
    · have rightKept : right.key ≠ row.key := fun same => different (leftRenamed.trans same.symm)
      have apartRight := apart right rightStored rightKept
      simpa [updatedRow, leftRenamed, rightKept, device.sameText_comm type] using apartRight
    · by_cases rightRenamed : right.key = row.key
      · have apartLeft := apart left leftStored leftRenamed
        simpa [updatedRow, leftRenamed, rightRenamed] using apartLeft
      · have apart := unique left leftStored right rightStored different
        simpa [updatedRow, leftRenamed, rightRenamed] using apart

end Tables

/-- What an accepted mutation asks for has unique types, unless it renames an
emergency to the type of another. -/
theorem Mutation.requested_unique {device : Device} {mutation : Mutation} {tables contents : Tables}
    (unique : UniqueTypes device tables) (asked : mutation.requested tables = some contents)
    (accepted : mutation.rejected device tables = false)
    (apart : ∀ emergency newName, mutation = .updateEmergency emergency newName →
      ∀ other ∈ tables.emergencies, other.key ≠ emergency →
        device.sameText other.type newName = false) :
    UniqueTypes device contents := by
  cases mutation with
  | addEmergency emergency =>
      cases emergency with
      | unmanaged value =>
          obtain rfl := Option.some.inj asked
          apply Tables.unique_of_subset (Tables.insertEmergency_unique unique accepted)
          rw [Tables.appendAll_named]
          exact List.Subset.refl _
      | managed key =>
          obtain ⟨-, -, rfl⟩ := Option.map_eq_some_iff.mp asked
          exact unique
  | addResponse response emergency =>
      apply Tables.unique_of_subset unique
      obtain ⟨key, appended⟩ := requested_addResponse asked
      rcases Tables.append_eq_some appended with ⟨-, ⟨value, -, rfl, -⟩ | ⟨member, -, rfl⟩⟩
      · simp
      · simp
  | removeResponse response emergency =>
      apply Tables.unique_of_subset unique
      obtain rfl := requested_removeResponse asked
      simp
  | updateResponse response newValue =>
      apply Tables.unique_of_subset unique
      obtain rfl := Tables.setResponse_eq_some asked
      exact List.Subset.refl _
  | updateEmergency emergency newName =>
      exact (Tables.setType_unique_iff unique asked).mpr (apart emergency newName rfl)
  | removeEmergency emergency =>
      apply Tables.unique_of_subset unique
      obtain ⟨row, -, rfl⟩ := requested_removeEmergency asked
      apply List.Subset.trans (Tables.deleteEmergency_named emergency)
      simp
  | clearAllData =>
      obtain rfl := Option.some.inj asked
      intro left member
      exact absurd member List.not_mem_nil

variable {device : Device}

section Step

variable {before after : Stores} {operation : Operation}

/-- A rejected mutation says so and leaves the stores as they were. -/
theorem rejected_unchanged {mutation : Mutation} (step : operation.Step device before after)
    (mutates : operation.action = .mutate mutation)
    (rejected : mutation.rejected device before.tables = true) :
    operation.calls.head? = some ⟨false, some .alreadyExists⟩ ∧ after.tables = before.tables ∧
      after.defaults = before.defaults := by
  obtain ⟨contents, -, rfl, called⟩ := step.mutate_cases device mutates
  obtain ⟨emergency, rfl⟩ := addEmergency_of_rejected rejected
  refine ⟨?_, by rw [tables_settled, Mutation.staged, if_pos rejected], rfl⟩
  rw [called, rejected]
  cases operation.commits <;> rfl

/-- A step from unique types keeps them unique exactly if it renames apart. -/
theorem keepsTypesUnique_iff (unique : UniqueTypes device before.tables)
    (step : operation.Step device before after) :
    KeepsTypesUnique device ⟨before, operation, after⟩ ↔
      RenamesApart device ⟨before, operation, after⟩ := by
  constructor
  · rintro ⟨still, -⟩ emergency newName renames
    obtain ⟨contents, asked, rfl, -⟩ := step.mutate_cases device renames
    exact (Tables.setType_unique_iff unique asked).mp (by rwa [tables_settled] at still)
  · intro apart
    -- An accepted mutation asks for unique types, so what does not is rejected.
    have accepts : ∀ mutation contents, operation.action = .mutate mutation →
        mutation.requested before.tables = some contents →
        mutation.rejected device before.tables = false → UniqueTypes device contents := by
      intro mutation contents mutates asked accepted
      apply Mutation.requested_unique unique asked accepted
      intro emergency newName renames
      exact apart emergency newName (mutates.trans (congrArg _ renames))
    refine ⟨?_, ?_⟩
    · rcases step.tables_cases with
        unchanged | ⟨mutation, contents, mutates, accepted, asked, changed⟩
      · exact unchanged ▸ unique
      · exact changed ▸ accepts mutation contents mutates asked accepted
    · intro mutation contents mutates asked duplicate
      apply rejected_unchanged step mutates
      by_contra accepted
      exact duplicate (accepts mutation contents mutates asked (by simpa using accepted))

end Step

/-- The types stay unique in exactly the runs that rename no emergency to the
type of another. -/
theorem uniqueTypes_iff {history : List (Performed Stores Operation)} {stores : Stores}
    (runs : Runs (Operation.Step device) Stores.empty history stores) :
    (∀ performed ∈ history, KeepsTypesUnique device performed) ↔
      ∀ performed ∈ history, RenamesApart device performed := by
  have initial : UniqueTypes device Stores.empty.tables := by
    intro left member
    exact absurd member List.not_mem_nil
  refine runs.forall_iff (fun _ => True) (fun stores => UniqueTypes device stores.tables)
    trivial initial (fun _ _ => trivial) (fun performed keeps => keeps.unique) ?_
  intro performed _ unique step
  exact keepsTypesUnique_iff unique step

/-- Of two emergencies the second is renamed to a third type. -/
theorem uniqueTypes_iff_flood :
    let device := Device.gmt ""
    let one := Tables.empty.insertEmergency "Fire"
    let two := one.insertEmergency "Storm"
    let renamed := two.updateEmergency 1 (fun _ => "Flood") id fun _ _ => .inl
    ∀ performed ∈ [
      (⟨Stores.empty, ⟨.mutate (.addEmergency (.unmanaged ⟨"Fire", []⟩)), 0, true, [succeeded]⟩,
        ⟨⟨one, none⟩, {}⟩⟩ : Performed Stores Operation),
      ⟨⟨⟨one, none⟩, {}⟩,
        ⟨.mutate (.addEmergency (.unmanaged ⟨"Storm", []⟩)), 0, true, [succeeded]⟩,
        ⟨⟨two, none⟩, {}⟩⟩,
      ⟨⟨⟨two, none⟩, {}⟩, ⟨.mutate (.updateEmergency 1 "Flood"), 0, true, [succeeded]⟩,
        ⟨⟨renamed, none⟩, {}⟩⟩], KeepsTypesUnique device performed := by
  intro device one two renamed
  have first : Operation.Step device Stores.empty
      ⟨.mutate (.addEmergency (.unmanaged ⟨"Fire", []⟩)), 0, true, [succeeded]⟩
      ⟨⟨one, none⟩, {}⟩ := rfl
  have second : Operation.Step device ⟨⟨one, none⟩, {}⟩
      ⟨.mutate (.addEmergency (.unmanaged ⟨"Storm", []⟩)), 0, true, [succeeded]⟩
      ⟨⟨two, none⟩, {}⟩ := rfl
  have third : Operation.Step device ⟨⟨two, none⟩, {}⟩
      ⟨.mutate (.updateEmergency 1 "Flood"), 0, true, [succeeded]⟩ ⟨⟨renamed, none⟩, {}⟩ := rfl
  refine (uniqueTypes_iff (.step (.step (.step .initial first) second) third)).mpr ?_
  simp only [List.nil_append, List.cons_append, List.forall_mem_cons]
  refine ⟨?_, ?_, ?_, by simp⟩
  · intro emergency newName renames
    cases renames
  · intro emergency newName renames
    cases renames
  · rintro _ _ ⟨⟩
    have apart : ∀ other ∈ two.emergencies, other.key ≠ 1 →
        device.sameText other.type "Flood" = false := by decide
    exact apart

/-- Renaming a second emergency to the type of the first is performed. -/
theorem uniqueTypes_fails :
    ¬ ∀ history stores,
      Runs (Operation.Step (Device.gmt "")) Stores.empty history stores →
      ∀ performed ∈ history, KeepsTypesUnique (Device.gmt "") performed := by
  intro always
  let one : Tables := Tables.empty.insertEmergency "Fire"
  let two : Tables := one.insertEmergency "Flood"
  let renamed : Tables := two.updateEmergency 1 (fun _ => "Fire") id fun _ _ => .inl
  have first : Operation.Step (Device.gmt "") Stores.empty
      ⟨.mutate (.addEmergency (.unmanaged ⟨"Fire", []⟩)), 0, true, [succeeded]⟩
      ⟨⟨one, none⟩, {}⟩ := rfl
  have second : Operation.Step (Device.gmt "") ⟨⟨one, none⟩, {}⟩
      ⟨.mutate (.addEmergency (.unmanaged ⟨"Flood", []⟩)), 0, true, [succeeded]⟩
      ⟨⟨two, none⟩, {}⟩ := rfl
  have third : Operation.Step (Device.gmt "") ⟨⟨two, none⟩, {}⟩
      ⟨.mutate (.updateEmergency 1 "Fire"), 0, true, [succeeded]⟩ ⟨⟨renamed, none⟩, {}⟩ := rfl
  have keeps := always _ _ (.step (.step (.step .initial first) second) third)
    ⟨⟨⟨two, none⟩, {}⟩, ⟨.mutate (.updateEmergency 1 "Fire"), 0, true, [succeeded]⟩,
      ⟨⟨renamed, none⟩, {}⟩⟩
    (by simp)
  exact absurd (keeps.unique ⟨0, "Fire", []⟩ (by decide) ⟨1, "Fire", []⟩ (by decide) (by decide))
    (by decide)

end ResponseTracker
