import Mathlib.Data.List.Induction

/-!
# Recorded runs of a transition relation

`Runs` keeps every performed step together with the states around it, so a
property of a whole run is a property of its recorded steps. `Runs.invariant`
is the inductive-invariant rule; `Runs.forall_iff` characterizes exactly which
runs keep a property at all of their steps, from an exact characterization of
one step.
-/

namespace Execution

universe u v w

/-- One performed step: the state it left, its label and the state it reached. -/
structure Performed (State : Type u) (Action : Type v) where
  before : State
  action : Action
  after : State

variable {State : Type u} {Action : Type v} {Step : State → Action → State → Prop}

/-- A finite run from `start`, with the history of its performed steps. -/
inductive Runs (Step : State → Action → State → Prop) (start : State) :
    List (Performed State Action) → State → Prop where
  | initial : Runs Step start [] start
  | step {history state action next} (prior : Runs Step start history state)
      (transition : Step state action next) :
      Runs Step start (history ++ [⟨state, action, next⟩]) next

namespace Runs

variable {start state : State} {history : List (Performed State Action)}

/-- An invariant of the steps holds at the frontier of every run and on both
sides of every recorded step. -/
theorem invariant (Inv : State → Prop)
    (preserved : ∀ {before action after}, Inv before → Step before action after → Inv after)
    (initial : Inv start) (runs : Runs Step start history state) :
    Inv state ∧ ∀ performed ∈ history, Inv performed.before ∧ Inv performed.after := by
  induction runs with
  | initial => exact ⟨initial, by simp⟩
  | step prior transition ih =>
      obtain ⟨here, earlier⟩ := ih
      have next := preserved here transition
      refine ⟨next, fun performed member => ?_⟩
      rcases List.mem_append.mp member with old | new
      · exact earlier performed old
      · obtain rfl := List.mem_singleton.mp new
        exact ⟨here, next⟩

/-- Every recorded step is a step of the relation. -/
theorem steps (runs : Runs Step start history state) :
    ∀ performed ∈ history, Step performed.before performed.action performed.after := by
  induction runs with
  | initial => simp
  | step prior transition ih =>
      intro performed member
      rcases List.mem_append.mp member with old | new
      · exact ih performed old
      · obtain rfl := List.mem_singleton.mp new
        exact transition

/-- One run after another. -/
theorem append {middle : State} {later : List (Performed State Action)}
    (first : Runs Step start history middle) (next : Runs Step middle later state) :
    Runs Step start (history ++ later) state := by
  induction next with
  | initial =>
      rw [List.append_nil]
      exact first
  | step prior transition ih =>
      rw [← List.append_assoc]
      exact .step ih transition

/-- A run of some steps is one of any that include them. -/
theorem mono {Other : State → Action → State → Prop}
    (includes : ∀ {before action after}, Step before action after → Other before action after)
    (runs : Runs Step start history state) : Runs Other start history state := by
  induction runs with
  | initial => exact .initial
  | step prior transition ih => exact .step ih (includes transition)

/-- A run with a last step is one up to it, and that step. -/
theorem concat_iff {earlier : List (Performed State Action)} {last : Performed State Action} :
    Runs Step start (earlier ++ [last]) state ↔
      Runs Step start earlier last.before ∧ Step last.before last.action last.after ∧
        last.after = state := by
  constructor
  · intro runs
    generalize same : earlier ++ [last] = history at runs
    cases runs with
    | initial => exact absurd same (by simp)
    | step prior transition =>
        obtain ⟨rfl, rfl⟩ := List.append_singleton_inj.mp same
        exact ⟨prior, transition, rfl⟩
  · rintro ⟨prior, transition, rfl⟩
    exact .step prior transition

/-- What the last steps keep is what they found. -/
theorem observe_eq {Value : Type w} (observe : State → Value)
    {Keeps : Performed State Action → Prop}
    (keeps : ∀ performed, Step performed.before performed.action performed.after →
      Keeps performed → observe performed.after = observe performed.before)
    {earlier later : List (Performed State Action)} {last : Performed State Action}
    (runs : Runs Step start (earlier ++ last :: later) state)
    (kept : ∀ performed ∈ later, Keeps performed) : observe state = observe last.after := by
  induction later using List.reverseRecOn generalizing state with
  | nil =>
      obtain ⟨-, -, rfl⟩ := concat_iff.mp runs
      rfl
  | append_singleton later next ih =>
      rw [← List.cons_append, ← List.append_assoc, concat_iff] at runs
      obtain ⟨prior, transition, rfl⟩ := runs
      rw [keeps next transition (kept next (by simp))]
      exact ih prior fun performed member => kept performed (List.mem_append_left _ member)

/-- A condition that some steps set, some keep and all others end holds exactly
if every step since one that set it has kept it. -/
theorem since_iff {Condition : State → Prop} {Sets Keeps : Performed State Action → Prop}
    (runs : Runs Step start history state) (initial : ¬ Condition start)
    (sets : ∀ performed, Step performed.before performed.action performed.after →
      Sets performed → Condition performed.after)
    (exact : ∀ performed, Step performed.before performed.action performed.after →
      ¬ Sets performed → (Condition performed.after ↔
        Keeps performed ∧ Condition performed.before)) :
    Condition state ↔ ∃ earlier set later, history = earlier ++ set :: later ∧ Sets set ∧
      ∀ performed ∈ later, Keeps performed := by
  induction runs with
  | initial => simpa using initial
  | @step prefixed before action after prior transition ih =>
      by_cases setting : Sets ⟨before, action, after⟩
      · exact ⟨fun _ => ⟨prefixed, _, [], rfl, setting, by simp⟩,
          fun _ => sets _ transition setting⟩
      · rw [exact _ transition setting, ih]
        constructor
        · rintro ⟨keeps, earlier, set, later, rfl, isSet, kept⟩
          refine ⟨earlier, set, later ++ [⟨before, action, after⟩], by simp, isSet, ?_⟩
          simpa [or_imp, forall_and] using ⟨kept, keeps⟩
        · rintro ⟨earlier, set, later, split, isSet, kept⟩
          induction later using List.reverseRecOn with
          | nil =>
              obtain ⟨-, rfl⟩ := List.append_singleton_inj.mp split
              exact absurd isSet setting
          | append_singleton later last =>
              rw [← List.cons_append, ← List.append_assoc] at split
              obtain ⟨rfl, rfl⟩ := List.append_singleton_inj.mp split
              exact ⟨kept _ (by simp), earlier, set, later, rfl, isSet,
                fun performed member => kept performed (List.mem_append_left _ member)⟩

/-- What every step updates from its action alone is, after a run, the fold of
the updates over its actions. -/
theorem foldl_eq {Value : Type u} (observe : State → Value) (update : Value → Action → Value)
    (follows : ∀ {before action after}, Step before action after →
      observe after = update (observe before) action)
    (runs : Runs Step start history state) :
    observe state = (history.map Performed.action).foldl update (observe start) := by
  induction runs with
  | initial => rfl
  | step prior transition ih =>
      rw [List.map_append, List.foldl_append, ← ih, follows transition]
      rfl

variable {Holds Meets : Performed State Action → Prop}

/-- If keeping `Holds` at a step leaves a good state, a run that keeps it at
all of its steps ends in a good state. -/
theorem good_of_forall (Good : State → Prop) (runs : Runs Step start history state)
    (initialGood : Good start) (good : ∀ performed, Holds performed → Good performed.after)
    (holds : ∀ performed ∈ history, Holds performed) : Good state := by
  cases runs with
  | initial => exact initialGood
  | step _ _ => exact good _ (holds _ (List.mem_append_right _ (List.mem_singleton_self _)))

/-- Exactness of a whole run from exactness of one step. When, at a good state
satisfying the invariant, a step keeps `Holds` exactly if it meets the
condition, a run from a good state keeps `Holds` at every step exactly if every
step meets the condition. -/
theorem forall_iff (Inv Good : State → Prop) (runs : Runs Step start history state)
    (initial : Inv start) (initialGood : Good start)
    (preserved : ∀ {before action after}, Inv before → Step before action after → Inv after)
    (good : ∀ performed, Holds performed → Good performed.after)
    (exact : ∀ performed, Inv performed.before → Good performed.before →
      Step performed.before performed.action performed.after →
      (Holds performed ↔ Meets performed)) :
    (∀ performed ∈ history, Holds performed) ↔ ∀ performed ∈ history, Meets performed := by
  induction runs with
  | initial => simp
  | @step earlier before action next prior transition ih =>
      have here : Inv before := (prior.invariant Inv preserved initial).1
      have last := fun goodHere => exact ⟨before, action, next⟩ here goodHere transition
      constructor
      · intro holds performed member
        have heldEarlier : ∀ performed ∈ earlier, Holds performed :=
          fun performed old => holds performed (List.mem_append_left _ old)
        rcases List.mem_append.mp member with old | new
        · exact ih.mp heldEarlier performed old
        · obtain rfl := List.mem_singleton.mp new
          exact (last (prior.good_of_forall Good initialGood good heldEarlier)).mp
            (holds _ (by simp))
      · intro meets
        have heldEarlier : ∀ performed ∈ earlier, Holds performed :=
          ih.mpr fun performed old => meets performed (List.mem_append_left _ old)
        intro performed member
        rcases List.mem_append.mp member with old | new
        · exact heldEarlier performed old
        · obtain rfl := List.mem_singleton.mp new
          exact (last (prior.good_of_forall Good initialGood good heldEarlier)).mpr
            (meets _ (by simp))

/-- A guard that only acting steps reset. It holds before every acting step
exactly if every acting step that another one follows leaves it held, and then
it holds at the frontier exactly if every acting step left it held. -/
theorem guarded_iff (Inv Guard : State → Prop) {Acts Keeps : Performed State Action → Prop}
    (runs : Runs Step start history state) (initial : Inv start) (guarded : Guard start)
    (preserved : ∀ {before action after}, Inv before → Step before action after → Inv after)
    (idle : ∀ performed, Inv performed.before →
      Step performed.before performed.action performed.after → ¬ Acts performed →
      (Guard performed.after ↔ Guard performed.before))
    (acts : ∀ performed, Inv performed.before →
      Step performed.before performed.action performed.after → Acts performed →
      (Guard performed.after ↔ Keeps performed)) :
    ((∀ performed ∈ history, Acts performed → Guard performed.before) ↔
      history.Pairwise fun earlier later => Acts earlier → Acts later → Keeps earlier) ∧
    ((∀ performed ∈ history, Acts performed → Guard performed.before) →
      (Guard state ↔ ∀ performed ∈ history, Acts performed → Keeps performed)) := by
  induction runs with
  | initial => exact ⟨by simp, fun _ => ⟨fun _ => by simp, fun _ => guarded⟩⟩
  | @step earlier before action next prior transition ih =>
      obtain ⟨exact, frontier⟩ := ih
      have here : Inv before := (prior.invariant Inv preserved initial).1
      simp only [List.forall_mem_append, List.forall_mem_singleton, List.pairwise_append,
        List.pairwise_singleton, List.forall_mem_singleton, true_and]
      by_cases acting : Acts ⟨before, action, next⟩
      · have reset := acts ⟨before, action, next⟩ here transition acting
        grind
      · have kept := idle ⟨before, action, next⟩ here transition acting
        grind

end Runs
end Execution
