import Mathlib.Logic.Basic
import WavLpddr.Lib.TransitionSystem

/-!
# Systems that come to rest

Some of the labels of a system are its own and the others belong to its environment.  If every
own step decreases a measure, then any sequence of own steps ends, and from every reachable
state one leads to a state of rest, in which no own step can be taken.
-/

namespace TransitionSystem

variable {State Label : Type*} {system : TransitionSystem State Label} {own : Label → Prop}

/-- No step of its own is left to the system. -/
def AtRest (system : TransitionSystem State Label) (own : Label → Prop) (state : State) : Prop :=
  ∀ label, own label → system.step label state = none

/-- Every own step of a reachable state decreases the measure. -/
def Decreases (system : TransitionSystem State Label) (own : Label → Prop)
    (measure : State → Nat) : Prop :=
  ∀ label state next, system.Reachable state → own label →
    system.step label state = some next → measure next < measure state

variable {measure : State → Nat}

theorem Decreases.mono (decreases : Decreases system own measure) {fewer : Label → Prop}
    (less : ∀ label, fewer label → own label) : Decreases system fewer measure :=
  fun label state next reachable isFewer taken =>
    decreases label state next reachable (less label isFewer) taken

/-- The measure bounds every sequence of own steps. -/
theorem Decreases.length_le (decreases : Decreases system own measure) {labels : List Label}
    (all : ∀ label ∈ labels, own label) {state final : State}
    (reachable : system.Reachable state) (run : system.exec labels state = some final) :
    labels.length + measure final ≤ measure state := by
  induction labels generalizing state with
  | nil =>
      obtain rfl : state = final := Option.some.inj run
      simp
  | cons label rest inductionHypothesis =>
      rw [exec_cons, Option.bind_eq_some_iff] at run
      obtain ⟨next, taken, remaining⟩ := run
      have smaller := decreases label state next reachable (all label List.mem_cons_self) taken
      have later := inductionHypothesis
        (fun other listed => all other (List.mem_cons_of_mem label listed))
        (.step reachable trivial taken) remaining
      rw [List.length_cons]
      omega

/-- Own steps lead to a state of rest. -/
theorem Decreases.exists_atRest (decreases : Decreases system own measure) {state : State}
    (reachable : system.Reachable state) :
    ∃ labels final, (∀ label ∈ labels, own label) ∧
      system.exec labels state = some final ∧ system.AtRest own final := by
  induction size : measure state using Nat.strongRecOn generalizing state with
  | ind size inductionHypothesis =>
    by_cases atRest : system.AtRest own state
    · exact ⟨[], state, by simp, rfl, atRest⟩
    · simp only [AtRest, not_forall] at atRest
      obtain ⟨label, isOwn, moves⟩ := atRest
      obtain ⟨next, taken⟩ := Option.ne_none_iff_exists'.mp moves
      have smaller := decreases label state next reachable isOwn taken
      obtain ⟨rest, final, all, run, isResting⟩ :=
        inductionHypothesis _ (size ▸ smaller) (.step reachable trivial taken) rfl
      refine ⟨label :: rest, final, ?_, ?_, isResting⟩
      · intro other listed
        rcases List.mem_cons.mp listed with rfl | inRest
        · exact isOwn
        · exact all other inRest
      · rw [exec_cons, taken, Option.bind_some, run]

end TransitionSystem
