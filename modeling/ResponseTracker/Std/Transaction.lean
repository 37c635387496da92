/-!
# A store with one write transaction

`Transactional` keeps the persisted contents and, while a write transaction is
open, the contents it has staged. Readers see the staged contents. A commit may
fail; it then leaves the transaction open with what it staged, until it is
cancelled. `none` is an exception raised by the store, which no caller catches.

`write` brackets a block in a transaction. A block that throws is rolled back,
but a failed commit is not: `write_commitFails` is the state a caller is left
in.
-/

universe u

/-- Persisted contents and the staged contents of an open write transaction. -/
@[ext]
structure Transactional (Contents : Type u) where
  persisted : Contents
  staged : Option Contents := none

namespace Transactional

variable {Contents Result Failure : Type u}

/-- The contents readers see. -/
def visible (store : Transactional Contents) : Contents := store.staged.getD store.persisted

def isInWriteTransaction (store : Transactional Contents) : Bool := store.staged.isSome

/-- Open a transaction; an open one raises. -/
def beginWrite (store : Transactional Contents) : Option (Transactional Contents) :=
  if store.isInWriteTransaction then none else some { store with staged := some store.persisted }

/-- Replace the staged contents. -/
def stage (contents : Contents) (store : Transactional Contents) : Transactional Contents :=
  { store with staged := some contents }

/-- Persist the staged contents, or fail and keep the transaction open. -/
def commitWrite (succeeds : Bool) (failure : Failure) (store : Transactional Contents) :
    Option (Transactional Contents × Except Failure PUnit) :=
  match store.staged with
  | none => none
  | some contents =>
      if succeeds then some (⟨contents, none⟩, .ok ⟨⟩) else some (store, .error failure)

/-- Drop the staged contents. -/
def cancelWrite (store : Transactional Contents) : Option (Transactional Contents) :=
  if store.isInWriteTransaction then some { store with staged := none } else none

/-- Open the store anew after its process has ended: what was staged is lost. -/
def reopen (store : Transactional Contents) : Transactional Contents := ⟨store.persisted, none⟩

/-- Run a block inside a write transaction and commit it. The block receives
the visible contents and answers the contents it staged, what it produced on
the way and whether it returned or threw. -/
def write (succeeds : Bool) (failure : Failure)
    (block : Contents → Option (Contents × Result × Except Failure PUnit))
    (store : Transactional Contents) :
    Option (Transactional Contents × Result × Except Failure PUnit) := do
  let opened ← store.beginWrite
  let (contents, result, returned) ← block opened.visible
  let written := opened.stage contents
  match returned with
  | .error thrown =>
      let cancelled ← if written.isInWriteTransaction then written.cancelWrite else some written
      some (cancelled, result, .error thrown)
  | .ok ⟨⟩ =>
      if written.isInWriteTransaction then
        let (committed, outcome) ← written.commitWrite succeeds failure
        some (committed, result, outcome)
      else some (written, result, .ok ⟨⟩)

@[simp] theorem visible_closed (contents : Contents) :
    (⟨contents, none⟩ : Transactional Contents).visible = contents := rfl

@[simp] theorem visible_open (contents staged : Contents) :
    (⟨contents, some staged⟩ : Transactional Contents).visible = staged := rfl

variable {succeeds : Bool} {failure : Failure}
  {block : Contents → Option (Contents × Result × Except Failure PUnit)}
  {contents persisted staged : Contents} {result : Result}

/-- No transaction begins inside an open one. -/
@[simp] theorem write_open :
    (⟨persisted, some staged⟩ : Transactional Contents).write succeeds failure block = none := rfl

/-- An exception raised in the block is not caught. -/
theorem write_raises (raises : block persisted = none) :
    (⟨persisted, none⟩ : Transactional Contents).write succeeds failure block = none := by
  simp [write, beginWrite, isInWriteTransaction, raises]

/-- A commit that succeeds persists what the block staged. -/
theorem write_commits (returns : block persisted = some (contents, result, .ok ⟨⟩)) :
    (⟨persisted, none⟩ : Transactional Contents).write true failure block =
      some (⟨contents, none⟩, result, .ok ⟨⟩) := by
  simp [write, beginWrite, isInWriteTransaction, returns, stage, commitWrite]

/-- A commit that fails leaves the transaction open with what the block staged. -/
theorem write_commitFails (returns : block persisted = some (contents, result, .ok ⟨⟩)) :
    (⟨persisted, none⟩ : Transactional Contents).write false failure block =
      some (⟨persisted, some contents⟩, result, .error failure) := by
  simp [write, beginWrite, isInWriteTransaction, returns, stage, commitWrite]

/-- What was persisted and what readers see have a property. -/
structure Throughout (Property : Contents → Prop) (store : Transactional Contents) : Prop where
  persisted : Property store.persisted
  visible : Property store.visible

variable {Property : Contents → Prop} {store : Transactional Contents}

theorem Throughout.closed (holds : Property contents) : Throughout Property ⟨contents, none⟩ :=
  ⟨holds, holds⟩

theorem Throughout.opened (persisted : Property contents) (holds : Property staged) :
    Throughout Property ⟨contents, some staged⟩ := ⟨persisted, holds⟩

theorem Throughout.reopen (holds : store.Throughout Property) : store.reopen.Throughout Property :=
  .closed holds.persisted

end Transactional
