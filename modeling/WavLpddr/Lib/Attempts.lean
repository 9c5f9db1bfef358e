import Mathlib.Order.Basic

/-!
# Attempts up to the first failure

A caller makes a number of attempts in turn and stops after the first one that
fails.  Which attempts fail is given by a stream.  `granted` counts the attempts
that succeed, `asked` those that are made.
-/

namespace Attempts

/-- How many of the first attempts succeed before the first failure. -/
def granted (fails : Nat → Bool) : Nat → Nat
  | 0 => 0
  | count + 1 =>
      if fails 0 then 0 else granted (fun attempt => fails (attempt + 1)) count + 1

/-- How many attempts are made: the successful ones and the failure that ends them. -/
def asked (fails : Nat → Bool) : Nat → Nat
  | 0 => 0
  | count + 1 =>
      if fails 0 then 1 else asked (fun attempt => fails (attempt + 1)) count + 1

variable {fails : Nat → Bool}

theorem granted_le (count : Nat) : granted fails count ≤ count := by
  induction count generalizing fails with
  | zero => exact Nat.le_refl _
  | succ count inductionHypothesis =>
      rw [granted]
      split
      · exact Nat.zero_le _
      · exact Nat.succ_le_succ inductionHypothesis

theorem granted_le_asked (count : Nat) : granted fails count ≤ asked fails count := by
  induction count generalizing fails with
  | zero => exact Nat.le_refl _
  | succ count inductionHypothesis =>
      rw [granted, asked]
      split
      · exact Nat.zero_le _
      · exact Nat.succ_le_succ inductionHypothesis

/-- All attempts succeed exactly if none of them fails. -/
theorem granted_eq_iff {count : Nat} :
    granted fails count = count ↔ ∀ attempt < count, fails attempt = false := by
  induction count generalizing fails with
  | zero => simp [granted]
  | succ count inductionHypothesis =>
      rw [granted, Nat.forall_lt_succ_left]
      cases first : fails 0 with
      | true => simp
      | false => simpa using inductionHypothesis

/-- Every attempt made succeeds exactly if all attempts succeed. -/
theorem asked_eq_granted_iff {count : Nat} :
    asked fails count = granted fails count ↔ granted fails count = count := by
  induction count generalizing fails with
  | zero => simp [granted, asked]
  | succ count inductionHypothesis =>
      rw [granted, asked]
      cases fails 0 with
      | true => simp
      | false => simpa using inductionHypothesis

theorem asked_of_granted {count : Nat} (all : granted fails count = count) :
    asked fails count = count :=
  (asked_eq_granted_iff.mpr all).trans all

/-- All attempts succeed exactly if none of those that are made fails. -/
theorem forall_lt_asked_iff {count : Nat} :
    (∀ attempt < asked fails count, fails attempt = false) ↔ granted fails count = count := by
  induction count generalizing fails with
  | zero => simp [granted, asked]
  | succ count inductionHypothesis =>
      rw [granted, asked]
      cases first : fails 0 with
      | true =>
          constructor
          · intro all
            have := all 0 Nat.one_pos
            simp [first] at this
          · intro none
            simp at none
      | false =>
          simp only [Bool.false_eq_true, if_false, Nat.forall_lt_succ_left, first, true_and,
            Nat.add_right_cancel_iff]
          exact inductionHypothesis

/-- A single attempt is always made. -/
theorem asked_of_le_one {count : Nat} (single : count ≤ 1) : asked fails count = count := by
  rcases Nat.le_one_iff_eq_zero_or_eq_one.mp single with rfl | rfl
  · rfl
  · rw [asked]
    split <;> rfl

end Attempts
