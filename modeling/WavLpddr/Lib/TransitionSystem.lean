import Mathlib.Logic.Relation

/-!
# Labelled transition systems

A system takes deterministic labelled steps; a label that is not enabled in a
state yields no next state.  Reachability may be restricted to runs whose every
step meets a condition on the label and the state before the step.  One
induction principle then turns a step lemma into a fact about all such runs.
-/

/-- A labelled transition system with a partial, deterministic step. -/
structure TransitionSystem (State Label : Type*) where
  initial : State → Prop
  step : Label → State → Option State

namespace TransitionSystem

variable {State Label : Type*} (system : TransitionSystem State Label)

/-- A condition on one step, read off its label and the state before it. -/
abbrev StepCondition (State Label : Type*) := Label → State → Prop

/-- States reached by runs whose steps all meet the condition. -/
inductive ReachableWhere (condition : StepCondition State Label) : State → Prop
  | initial {state : State} (starts : system.initial state) :
      ReachableWhere condition state
  | step {state next : State} {label : Label}
      (before : ReachableWhere condition state) (met : condition label state)
      (taken : system.step label state = some next) :
      ReachableWhere condition next

/-- States reached by arbitrary runs. -/
abbrev Reachable : State → Prop :=
  system.ReachableWhere fun _ _ => True

/-- Take the listed steps in order. -/
def exec : List Label → State → Option State
  | [], state => some state
  | label :: rest, state => (system.step label state).bind (exec rest)

@[simp]
theorem exec_nil (state : State) : system.exec [] state = some state := rfl

theorem exec_cons (label : Label) (rest : List Label) (state : State) :
    system.exec (label :: rest) state =
      (system.step label state).bind (system.exec rest) := rfl

variable {system}

/-- Runs of a condition meet another one that their steps imply. -/
theorem ReachableWhere.weaken {strong weak : StepCondition State Label}
    (weaker : ∀ label state next, system.ReachableWhere strong state → strong label state →
      system.step label state = some next → weak label state)
    {state : State} (reachable : system.ReachableWhere strong state) :
    system.ReachableWhere weak state := by
  induction reachable with
  | initial starts => exact .initial starts
  | step before met taken inductionHypothesis =>
      exact .step inductionHypothesis (weaker _ _ _ before met taken) taken

theorem ReachableWhere.mono {strong weak : StepCondition State Label}
    (weaker : ∀ label state, strong label state → weak label state)
    {state : State} (reachable : system.ReachableWhere strong state) :
    system.ReachableWhere weak state :=
  reachable.weaken fun label state _ _ met _ => weaker label state met

theorem ReachableWhere.reachable {condition : StepCondition State Label}
    {state : State} (reachable : system.ReachableWhere condition state) :
    system.Reachable state :=
  reachable.mono fun _ _ _ => trivial

/-- What holds initially and is preserved by every step meeting the condition
holds along every run whose steps meet it.  The step may also use that the
state before it is reachable. -/
theorem ReachableWhere.invariant {condition : StepCondition State Label}
    {motive : State → Prop}
    (starts : ∀ state, system.initial state → motive state)
    (preserved : ∀ label state next, system.ReachableWhere condition state →
      condition label state → system.step label state = some next →
      motive state → motive next)
    {state : State} (reachable : system.ReachableWhere condition state) :
    motive state := by
  induction reachable with
  | initial isInitial => exact starts _ isInitial
  | step before met taken inductionHypothesis =>
      exact preserved _ _ _ before met taken inductionHypothesis

theorem Reachable.exec {labels : List Label} {state final : State}
    (reachable : system.Reachable state)
    (run : system.exec labels state = some final) : system.Reachable final := by
  induction labels generalizing state with
  | nil =>
      rw [exec_nil, Option.some.injEq] at run
      exact run ▸ reachable
  | cons label rest inductionHypothesis =>
      rw [exec_cons, Option.bind_eq_some_iff] at run
      obtain ⟨next, taken, remaining⟩ := run
      exact inductionHypothesis (.step reachable trivial taken) remaining

/-- Executing labels with a property stays inside the runs whose labels have it. -/
theorem ReachableWhere.exec_of_forall {allowed : Label → Prop} {labels : List Label}
    (all : ∀ label ∈ labels, allowed label) {state final : State}
    (reachable : system.ReachableWhere (fun label _ => allowed label) state)
    (run : system.exec labels state = some final) :
    system.ReachableWhere (fun label _ => allowed label) final := by
  induction labels generalizing state with
  | nil =>
      obtain rfl : state = final := Option.some.inj run
      exact reachable
  | cons label rest inductionHypothesis =>
      rw [exec_cons, Option.bind_eq_some_iff] at run
      obtain ⟨next, taken, remaining⟩ := run
      exact inductionHypothesis (fun other listed => all other (List.mem_cons_of_mem label listed))
        (.step reachable (all label List.mem_cons_self) taken) remaining

/-- What every step keeps or ends with an event is left along a run only through the event. -/
theorem Reachable.exec_until {waits done : State → Prop}
    (stepwise : ∀ label state next, system.Reachable state → waits state →
      system.step label state = some next → waits next ∨ done next)
    {labels : List Label} {state final : State} (reachable : system.Reachable state)
    (waiting : waits state) (run : system.exec labels state = some final)
    (left : ¬ waits final) :
    ∃ first middle, first <+: labels ∧ system.exec first state = some middle ∧ done middle := by
  induction labels generalizing state with
  | nil =>
      obtain rfl : state = final := Option.some.inj run
      exact absurd waiting left
  | cons label rest inductionHypothesis =>
      rw [exec_cons, Option.bind_eq_some_iff] at run
      obtain ⟨next, taken, remaining⟩ := run
      rcases stepwise label state next reachable waiting taken with stillWaits | isDone
      · obtain ⟨first, middle, isPrefix, reached, isDone⟩ :=
          inductionHypothesis (.step reachable trivial taken) stillWaits remaining
        refine ⟨label :: first, middle, List.cons_prefix_cons.mpr ⟨rfl, isPrefix⟩, ?_, isDone⟩
        rw [exec_cons, taken]
        exact reached
      · refine ⟨[label], next, List.cons_prefix_cons.mpr ⟨rfl, List.nil_prefix⟩, ?_, isDone⟩
        rw [exec_cons, taken]
        rfl

/-- Take the listed steps in order as long as they meet the condition. -/
def execWhere (system : TransitionSystem State Label) (condition : StepCondition State Label)
    [∀ label state, Decidable (condition label state)] : List Label → State → Option State
  | [], state => some state
  | label :: rest, state =>
      if condition label state then
        (system.step label state).bind (execWhere system condition rest)
      else none

/-- Executing a list of labels under a condition stays inside the runs that meet it. -/
theorem ReachableWhere.execWhere {condition : StepCondition State Label}
    [∀ label state, Decidable (condition label state)] {labels : List Label}
    {state final : State} (reachable : system.ReachableWhere condition state)
    (run : TransitionSystem.execWhere system condition labels state = some final) :
    system.ReachableWhere condition final := by
  induction labels generalizing state with
  | nil =>
      obtain rfl : state = final := Option.some.inj run
      exact reachable
  | cons label rest inductionHypothesis =>
      unfold TransitionSystem.execWhere at run
      split at run
      · rename_i met
        obtain ⟨next, taken, remaining⟩ := Option.bind_eq_some_iff.mp run
        exact inductionHypothesis (.step reachable met taken) remaining
      · cases run

section Monitor

variable {Ghost : Type*}

/-- Run a system together with a monitor that observes every step.  The monitor
never blocks a step. -/
def monitored (system : TransitionSystem State Label)
    (start : Ghost) (observe : Label → State → Ghost → Ghost) :
    TransitionSystem (State × Ghost) Label where
  initial pair := system.initial pair.1 ∧ pair.2 = start
  step label pair :=
    (system.step label pair.1).map fun next => (next, observe label pair.1 pair.2)

variable {start : Ghost} {observe : Label → State → Ghost → Ghost}

theorem ReachableWhere.of_monitored_where {condition : StepCondition State Label}
    {pair : State × Ghost}
    (reachable : (monitored system start observe).ReachableWhere
      (fun label pair => condition label pair.1) pair) :
    system.ReachableWhere condition pair.1 := by
  induction reachable with
  | initial starts => exact .initial starts.1
  | step _ met taken inductionHypothesis =>
      obtain ⟨next, moved, same⟩ := Option.map_eq_some_iff.mp taken
      subst same
      exact .step inductionHypothesis met moved

theorem ReachableWhere.of_monitored {condition : StepCondition (State × Ghost) Label}
    {pair : State × Ghost}
    (reachable : (monitored system start observe).ReachableWhere condition pair) :
    system.Reachable pair.1 :=
  reachable.reachable.of_monitored_where

end Monitor

end TransitionSystem
