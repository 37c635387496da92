import ResponseTracker.DataSource.Mutations

/-!
# Failed commits and callbacks

A failed commit leaves the transaction open, and no operation cancels it:
`rollsBack_iff` says that a reported failure leaves the stores as they were only
where no commit failed. The closures report to the callback before their commit
is decided: `truthful_iff` says that the callbacks tell the outcome, once, only
where the commit succeeds or the operation is `clearAllData`.
-/

namespace ResponseTracker

open DataManager Mutation

variable (device : Device) (now : Date) (commits : Bool) (before : Stores) (mutation : Mutation)

/-- A mutation whose last callback carries an error has left both stores as
they were and no transaction open. -/
def RollsBack : Prop :=
  ∀ after calls, mutation.perform device now commits before = some (after, calls) →
    (∃ call ∈ calls.getLast?, call.error.isSome) →
    after.tables = before.tables ∧ after.defaults = before.defaults ∧
      after.defaultRealm.staged = none

/-- The change a mutation asks for has been persisted. -/
def Committed (after : Stores) : Prop :=
  mutation.rejected device before.tables = false ∧
    ∃ contents, mutation.requested before.tables = some contents ∧
      after.defaultRealm = ⟨contents, none⟩

/-- A mutation invokes its callback once, with success exactly if it was
committed, and with an error otherwise. -/
def Truthful : Prop :=
  ∃ after call, mutation.perform device now commits before = some (after, [call]) ∧
    (call = ⟨true, none⟩ ↔ Committed device before mutation after) ∧
    (¬ Committed device before mutation after → ∃ error, call = ⟨false, some error⟩)

section Calls

variable {mutation} {rejected : Bool}

/-- Only a rejected duplicate reports an error and commits. -/
theorem rejected_of_error {call : Callback} (last : call ∈ (mutation.calls rejected true).getLast?)
    (error : call.error.isSome) : rejected = true := by
  cases rejected with
  | true => rfl
  | false =>
      obtain rfl : succeeded = call := by simpa [calls, report] using last
      exact absurd error (by decide)

/-- After a failed commit the last callback carries an error. -/
theorem error_of_fails : ∃ call ∈ (mutation.calls rejected false).getLast?, call.error.isSome := by
  cases mutation <;> exact ⟨_, rfl, rfl⟩

/-- A failed commit invokes the callback twice, except that of `clearAllData`. -/
theorem calls_fails_length (once : (mutation.calls rejected false).length = 1) :
    mutation = .clearAllData := by
  cases mutation with
  | clearAllData => rfl
  | _ => exact absurd once (by simp [calls])

end Calls

/-- A reported failure leaves everything as it was exactly if the commit
succeeds, unless the store raises and nothing is reported. -/
theorem rollsBack_iff :
    RollsBack device now commits before mutation ↔
      before.defaultRealm.isInWriteTransaction = true ∨ mutation.live before.tables = false ∨
        commits = true := by
  constructor
  · intro rollsBack
    by_contra failing
    simp only [not_or, Bool.not_eq_true, Bool.not_eq_false] at failing
    obtain ⟨closed, live, fails⟩ := failing
    subst fails
    have begins : before.defaultRealm.staged = none := by
      simpa [Transactional.isInWriteTransaction] using closed
    obtain ⟨⟨after, calls⟩, performed⟩ := Option.isSome_iff_exists.mp
      ((perform_isSome device now false).mpr ⟨begins, live⟩)
    obtain ⟨-, contents, -, left, called⟩ := perform_cases device now false performed
    have unchanged := rollsBack after calls performed (called ▸ error_of_fails)
    rw [left] at unchanged
    exact absurd unchanged.2.2 (by simp [settled])
  · rintro (opened | dead | rfl) after calls performed ⟨call, last, error⟩
    · have closed := (perform_cases device now commits performed).1
      simp [Transactional.isInWriteTransaction, closed] at opened
    · have performs := (perform_isSome device now commits).mp
        (Option.isSome_iff_exists.mpr ⟨_, performed⟩)
      exact absurd performs.2 (by simp [dead])
    · obtain ⟨-, contents, -, rfl, rfl⟩ := perform_cases device now true performed
      have rejected := rejected_of_error last error
      refine ⟨by rw [tables_settled, staged, if_pos rejected], ?_, rfl⟩
      obtain ⟨emergency, rfl⟩ := addEmergency_of_rejected rejected
      rfl

/-- With a failing commit, adding a response leaves it visible in an open transaction. -/
theorem rollsBack_fails :
    ¬ RollsBack (Device.gmt "") 0 false
      ⟨⟨Tables.empty.insertEmergency "Fire", none⟩, {}⟩
      (.addResponse (.unmanaged ⟨"7", "", 0⟩) 0) := by
  intro rollsBack
  have unchanged := rollsBack _ _ rfl ⟨_, rfl, rfl⟩
  exact absurd unchanged.2.2 (by decide)

/-- What a mutation asks for is persisted by a commit that succeeds, unless it is rejected. -/
theorem committed_iff {after : Stores} {calls : List Callback}
    (performed : mutation.perform device now commits before = some (after, calls)) :
    Committed device before mutation after ↔
      commits = true ∧ mutation.rejected device before.tables = false := by
  obtain ⟨-, contents, asked, rfl, -⟩ := perform_cases device now commits performed
  constructor
  · rintro ⟨accepted, requested, same, persisted⟩
    refine ⟨?_, accepted⟩
    cases commits with
    | true => rfl
    | false => exact absurd (congrArg Transactional.staged persisted) (by simp [settled])
  · rintro ⟨rfl, accepted⟩
    refine ⟨accepted, contents, asked, ?_⟩
    simp [settled, staged, accepted]

/-- The callbacks tell the outcome exactly if the commit succeeds or the
mutation is `clearAllData`, and the store does not raise. -/
theorem truthful_iff :
    Truthful device now commits before mutation ↔
      before.defaultRealm.isInWriteTransaction = false ∧ mutation.live before.tables = true ∧
        (commits = true ∨ mutation = .clearAllData) := by
  have closed : before.defaultRealm.isInWriteTransaction = false ↔
      before.defaultRealm.staged = none := by
    simp [Transactional.isInWriteTransaction]
  rw [closed, ← and_assoc, ← perform_isSome device now commits]
  constructor
  · rintro ⟨after, call, performed, -⟩
    refine ⟨Option.isSome_iff_exists.mpr ⟨_, performed⟩, ?_⟩
    cases commits with
    | true => exact .inl rfl
    | false =>
        obtain ⟨-, -, -, -, once⟩ := perform_cases device now false performed
        exact .inr (calls_fails_length (by rw [← once]; rfl))
  · rintro ⟨performs, outcome⟩
    obtain ⟨⟨after, calls⟩, performed⟩ := Option.isSome_iff_exists.mp performs
    have committed := committed_iff device now commits before mutation performed
    obtain ⟨-, -, -, -, called⟩ := perform_cases device now commits performed
    cases commits with
    | true =>
        refine ⟨after, _, called ▸ performed, ?_⟩
        rw [committed]
        cases mutation.rejected device before.tables with
        | true => exact ⟨by decide, fun _ => ⟨.alreadyExists, rfl⟩⟩
        | false => exact ⟨by decide, fun rejected => absurd ⟨rfl, rfl⟩ rejected⟩
    | false =>
        obtain rfl := outcome.resolve_left Bool.false_ne_true
        refine ⟨after, _, called ▸ performed, ?_⟩
        rw [committed]
        exact ⟨by simp [Mutation.failure], fun _ => ⟨.errorClearData, rfl⟩⟩

/-- With a failing commit, adding an emergency reports twice, and each time success. -/
theorem truthful_fails :
    ¬ Truthful (Device.gmt "") 0 false .empty
      (.addEmergency (.unmanaged ⟨"Fire", []⟩)) := by
  rintro ⟨after, call, performed, -⟩
  have once := congrArg (Option.map fun performed => performed.2.length) performed
  rw [Option.map_some, List.length_singleton] at once
  exact absurd once (by decide)

end ResponseTracker
