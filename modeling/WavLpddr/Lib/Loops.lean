import Mathlib.Order.Basic

/-!
# Loops that are left with a value

A turn of a loop either changes its state or leaves the loop with a value.  A loop need not
be left; where it is, the value follows from the state in which it was entered.  The rules
reason about a loop by an invariant and by a measure that every turn decreases.
-/

namespace Loops

variable {State Value : Type*}

/-- Take at most a number of turns. -/
def iterate (body : State → State ⊕ Value) : Nat → State → Option Value
  | 0, _ => none
  | turns + 1, state =>
      match body state with
      | .inl next => iterate body turns next
      | .inr value => some value

/-- The loop entered in a state is left with a value. -/
def Leaves (body : State → State ⊕ Value) (state : State) (value : Value) : Prop :=
  ∃ turns, iterate body turns state = some value

variable {body : State → State ⊕ Value}

theorem Leaves.exit {state : State} {value : Value} (left : body state = .inr value) :
    Leaves body state value := by
  refine ⟨1, ?_⟩
  rw [iterate, left]

theorem Leaves.turn {state next : State} {value : Value} (turned : body state = .inl next)
    (leaves : Leaves body next value) : Leaves body state value := by
  obtain ⟨turns, rest⟩ := leaves
  refine ⟨turns + 1, ?_⟩
  rw [iterate, turned]
  exact rest

/-- A loop that is left within some turns is left with the same value within more. -/
theorem iterate_of_le {turns more : Nat} {state : State} {value : Value}
    (left : iterate body turns state = some value) (le : turns ≤ more) :
    iterate body more state = some value := by
  induction turns generalizing more state with
  | zero => cases left
  | succ turns inductionHypothesis =>
      obtain ⟨more, rfl⟩ : ∃ rest, more = rest + 1 := ⟨more - 1, by omega⟩
      rw [iterate] at left ⊢
      cases turned : body state with
      | inl next =>
          rw [turned] at left
          exact inductionHypothesis left (Nat.le_of_succ_le_succ le)
      | inr result =>
          rw [turned] at left
          exact left

/-- A loop is left with no more than one value. -/
theorem Leaves.unique {state : State} {value other : Value} (leaves : Leaves body state value)
    (alsoLeaves : Leaves body state other) : value = other := by
  obtain ⟨turns, left⟩ := leaves
  obtain ⟨otherTurns, alsoLeft⟩ := alsoLeaves
  have first := iterate_of_le left (Nat.le_max_left turns otherTurns)
  have second := iterate_of_le alsoLeft (Nat.le_max_right turns otherTurns)
  exact Option.some.inj (first.symm.trans second)

/-- Every turn keeps the invariant and decreases the measure, or leaves with a value that has
the wanted property: then as many turns as the measure and one more are enough. -/
theorem iterate_of_measure (invariant : State → Prop) (wanted : Value → Prop)
    (measure : State → Nat)
    (turns : ∀ state, invariant state →
      (∃ next, body state = .inl next ∧ invariant next ∧ measure next < measure state) ∨
        ∃ value, body state = .inr value ∧ wanted value)
    {state : State} (holds : invariant state) {limit : Nat} (enough : measure state < limit) :
    ∃ value, iterate body limit state = some value ∧ wanted value := by
  induction limit generalizing state with
  | zero => exact absurd enough (Nat.not_lt_zero _)
  | succ limit inductionHypothesis =>
      rw [iterate]
      obtain ⟨next, turned, kept, less⟩ | ⟨value, left, isWanted⟩ := turns state holds
      · rw [turned]
        exact inductionHypothesis kept (Nat.lt_of_lt_of_le less (Nat.le_of_lt_succ enough))
      · rw [left]
        exact ⟨value, rfl, isWanted⟩

end Loops
