import WavLpddr.Lib.TransitionSystem

/-!
# Refinement of transition systems

Every step of a concrete system emits events.  The system refines an abstract one when a view
of its states turns each step into the run of the events that it emits.  The record of a
concrete run is then a run of the abstract system, and what the abstract system keeps holds of
every view.
-/

namespace TransitionSystem

variable {State Label Abstract Event : Type*}

theorem exec_append (system : TransitionSystem State Label) (first second : List Label)
    (state : State) :
    system.exec (first ++ second) state =
      (system.exec first state).bind (system.exec second) := by
  induction first generalizing state with
  | nil => rfl
  | cons label rest inductionHypothesis =>
      rw [List.cons_append, exec_cons, exec_cons, Option.bind_assoc]
      congr 1
      funext next
      exact inductionHypothesis next

theorem exec_singleton (system : TransitionSystem State Label) (label : Label) (state : State) :
    system.exec [label] state = system.step label state := by
  rw [exec_cons]
  cases system.step label state <;> rfl

/-- Run a system and record the events of its steps in their order. -/
abbrev recorded (system : TransitionSystem State Label) (emits : Label → State → List Event) :
    TransitionSystem (State × List Event) Label :=
  monitored system [] fun label state record => record ++ emits label state

/-- Each step of the concrete system is the run of its events in the abstract one. -/
structure Refinement (system : TransitionSystem State Label)
    (abstract : TransitionSystem Abstract Event) (emits : Label → State → List Event) where
  view : State → Abstract
  starts : ∀ state, system.initial state → abstract.initial (view state)
  steps : ∀ label state next, system.Reachable state → system.step label state = some next →
    abstract.exec (emits label state) (view state) = some (view next)

namespace Refinement

variable {system : TransitionSystem State Label} {abstract : TransitionSystem Abstract Event}
  {emits : Label → State → List Event}

/-- The record of a run is an abstract run to the view of its state. -/
theorem exec_of_reachable (refinement : Refinement system abstract emits)
    {pair : State × List Event} (reachable : (recorded system emits).Reachable pair) :
    ∃ start, abstract.initial start ∧
      abstract.exec pair.2 start = some (refinement.view pair.1) := by
  induction reachable with
  | @initial pair isInitial =>
      obtain ⟨starts, noEvents⟩ := isInitial
      refine ⟨refinement.view pair.1, refinement.starts _ starts, ?_⟩
      rw [noEvents, exec_nil]
  | @step pair next label before _ taken inductionHypothesis =>
      obtain ⟨start, isStart, ran⟩ := inductionHypothesis
      obtain ⟨after, moved, rfl⟩ := Option.map_eq_some_iff.mp taken
      refine ⟨start, isStart, ?_⟩
      rw [exec_append, ran, Option.bind_some]
      exact refinement.steps _ _ _ before.of_monitored moved

/-- The view of a reachable state is reachable. -/
theorem reachable_view (refinement : Refinement system abstract emits) {state : State}
    (reachable : system.Reachable state) : abstract.Reachable (refinement.view state) := by
  induction reachable with
  | initial isInitial => exact .initial (refinement.starts _ isInitial)
  | step before _ taken inductionHypothesis =>
      exact inductionHypothesis.exec (refinement.steps _ _ _ before taken)

end Refinement

end TransitionSystem
