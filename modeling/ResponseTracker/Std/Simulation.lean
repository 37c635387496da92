import ResponseTracker.Std.Execution

/-!
# Runs seen through an abstraction

A system refines another if each of its steps is, through an abstraction of its
states, the step of the other that its label names, or none. `Refines.runs`
lifts this to whole runs.
-/

namespace Execution

universe u v w x y z

variable {State : Type u} {Action : Type v} {Spec : Type w} {Label : Type x}
  {Step : State → Action → State → Prop} {SpecStep : Spec → Label → Spec → Prop}
  {Inv : State → Prop} {abstraction : State → Spec} {label : Performed State Action → Option Label}

/-- The step a label names, or none. -/
def Follows (SpecStep : Spec → Label → Spec → Prop) (before : Spec) (label : Option Label)
    (after : Spec) : Prop :=
  match label with
  | none => after = before
  | some name => SpecStep before name after

/-- Steps keep an invariant, and under it each is followed as its label tells. -/
structure Refines (Step : State → Action → State → Prop) (SpecStep : Spec → Label → Spec → Prop)
    (Inv : State → Prop) (abstraction : State → Spec)
    (label : Performed State Action → Option Label) : Prop where
  preserved : ∀ {before action after}, Inv before → Step before action after → Inv after
  follows : ∀ {before action after}, Inv before → Step before action after →
    Follows SpecStep (abstraction before) (label ⟨before, action, after⟩) (abstraction after)

/-- A step as the other system sees it. -/
def seenStep (abstraction : State → Spec) (label : Performed State Action → Option Label)
    (performed : Performed State Action) : Option (Performed Spec Label) :=
  (label performed).map fun name =>
    ⟨abstraction performed.before, name, abstraction performed.after⟩

/-- A run as the other system sees it. -/
def seen (abstraction : State → Spec) (label : Performed State Action → Option Label)
    (history : List (Performed State Action)) : List (Performed Spec Label) :=
  history.filterMap (seenStep abstraction label)

theorem seen_concat (earlier : List (Performed State Action)) (last : Performed State Action) :
    seen abstraction label (earlier ++ [last]) =
      seen abstraction label earlier ++ (seenStep abstraction label last).toList := by
  rw [seen, seen, List.filterMap_append]
  cases same : seenStep abstraction label last with
  | none => rw [List.filterMap_cons_none same, List.filterMap_nil, Option.toList_none]
  | some step => rw [List.filterMap_cons_some same, List.filterMap_nil, Option.toList_some]

namespace Refines

/-- Every run is, as it is seen, a run of the other system. -/
theorem runs {start state : State} {history : List (Performed State Action)}
    (refines : Refines Step SpecStep Inv abstraction label) (initial : Inv start)
    (runs : Runs Step start history state) :
    Runs SpecStep (abstraction start) (seen abstraction label history) (abstraction state) := by
  induction runs with
  | initial => exact .initial
  | @step earlier before action after prior transition ih =>
      have here := (prior.invariant Inv refines.preserved initial).1
      have followed := refines.follows here transition
      rw [seen_concat, seenStep]
      cases named : label ⟨before, action, after⟩ with
      | none =>
          rw [named] at followed
          rw [Option.map_none, Option.toList_none, List.append_nil, followed]
          exact ih
      | some name =>
          rw [named] at followed
          exact .step ih followed

end Refines
end Execution
