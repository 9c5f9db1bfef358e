import Mathlib.Data.List.Induction
import WavLpddr.Lib.Refinement

/-!
# Settings that are staged and committed

A setting is changed in two moves: a value is staged, and a commit puts it in force.  Staging
replaces what was staged before, a commit without a staged value changes nothing, and a reset
puts a value in force at once.  After every sequence of moves the value in force is the one
that was staged last before the last commit.
-/

namespace Staging

open TransitionSystem

variable {Value : Type*}

inductive Move (Value : Type*)
  | reset (value : Value)
  | stage (value : Value)
  | commit
deriving DecidableEq, Repr

/-- The value in force, and the staged one. -/
structure Slots (Value : Type*) where
  active : Option Value
  staged : Option Value
deriving DecidableEq, Repr

def Slots.empty : Slots Value := ⟨none, none⟩

def Slots.after (slots : Slots Value) : Move Value → Slots Value
  | .reset value => ⟨some value, none⟩
  | .stage value => { slots with staged := some value }
  | .commit => ⟨slots.staged.or slots.active, none⟩

/-- Every move can be made. -/
def system : TransitionSystem (Slots Value) (Move Value) where
  initial slots := slots = .empty
  step move slots := some (slots.after move)

def Move.IsStage : Move Value → Prop
  | .stage _ => True
  | _ => False

section Runs

variable {moves later : List (Move Value)} {slots final : Slots Value} {value : Value}

theorem exec_eq (moves : List (Move Value)) (slots : Slots Value) :
    (system : TransitionSystem (Slots Value) (Move Value)).exec moves slots =
      some (moves.foldl Slots.after slots) := by
  induction moves generalizing slots with
  | nil => rfl
  | cons move rest inductionHypothesis =>
      rw [exec_cons]
      exact inductionHypothesis _

/-- Staging leaves what is in force. -/
theorem active_of_stages (stages : ∀ move ∈ later, move.IsStage) (slots : Slots Value) :
    (later.foldl Slots.after slots).active = slots.active := by
  induction later generalizing slots with
  | nil => rfl
  | cons move rest inductionHypothesis =>
      have restStages := fun other listed => stages other (List.mem_cons_of_mem move listed)
      rw [List.foldl_cons, inductionHypothesis restStages]
      cases move with
      | stage value => rfl
      | reset value => exact (stages _ List.mem_cons_self).elim
      | commit => exact (stages _ List.mem_cons_self).elim

/-- What was staged last before the last commit is in force. -/
theorem active_of_committed {earlier : List (Move Value)}
    (stages : ∀ move ∈ later, move.IsStage) (slots : Slots Value) :
    ((earlier ++ .stage value :: .commit :: later).foldl Slots.after slots).active =
      some value := by
  rw [List.foldl_append, List.foldl_cons, List.foldl_cons, active_of_stages stages]
  rfl

/-- The values of the slots were put there by moves. -/
theorem mem_of_run (ran : moves.foldl Slots.after (.empty : Slots Value) = final) :
    (∀ value, final.active = some value → .reset value ∈ moves ∨ .stage value ∈ moves) ∧
      ∀ value, final.staged = some value → .stage value ∈ moves := by
  induction moves using List.reverseRecOn generalizing final with
  | nil =>
      subst ran
      constructor
      · rintro value ⟨⟩
      · rintro value ⟨⟩
  | append_singleton earlier last inductionHypothesis =>
      obtain ⟨active, staged⟩ := inductionHypothesis rfl
      have fromEarlier : ∀ {move}, move ∈ earlier → move ∈ earlier ++ [last] :=
        fun listed => List.mem_append_left _ listed
      rw [List.foldl_append, List.foldl_cons, List.foldl_nil] at ran
      subst ran
      cases last with
      | reset value =>
          refine ⟨fun other isActive => ?_, fun _ isStaged => (nomatch isStaged)⟩
          obtain rfl : value = other := Option.some.inj isActive
          exact .inl (List.mem_append_right _ List.mem_cons_self)
      | stage value =>
          refine ⟨fun other isActive => (active other isActive).imp fromEarlier fromEarlier,
            fun other isStaged => ?_⟩
          obtain rfl : value = other := Option.some.inj isStaged
          exact List.mem_append_right _ List.mem_cons_self
      | commit =>
          refine ⟨fun other isActive => ?_, fun _ isStaged => (nomatch isStaged)⟩
          rcases Option.or_eq_some_iff.mp isActive with wasStaged | ⟨-, wasActive⟩
          · exact .inr (fromEarlier (staged other wasStaged))
          · exact (active other wasActive).imp fromEarlier fromEarlier

end Runs

end Staging
