import Mathlib.Logic.Basic

/-!
# Postconditions of computations that may fail

A computation either returns a value or stops with a fault.  `Ends` states both
postconditions at once, and the rules below compose such statements along the
structure of a program: sequencing, loops over a list, and weakening.
-/

namespace Outcome

variable {Fault Value Next State Index : Type}

/-- Every value satisfies `good`, and every fault is allowed. -/
def Ends (outcome : Except Fault Value) (allowed : Fault → Prop) (good : Value → Prop) :
    Prop :=
  match outcome with
  | .ok value => good value
  | .error fault => allowed fault

variable {outcome : Except Fault Value} {allowed : Fault → Prop} {good : Value → Prop}

theorem Ends.ok {value : Value} (holds : good value) : Ends (.ok value) allowed good := holds

theorem Ends.pure {value : Value} (holds : good value) :
    Ends (Pure.pure value) allowed good := holds

/-- What a returned value satisfies. -/
theorem Ends.good_of_ok {value : Value} (ends : Ends outcome allowed good)
    (returned : outcome = .ok value) : good value := by
  rw [returned] at ends
  exact ends

/-- Which fault may have stopped the computation. -/
theorem Ends.allowed_of_error {fault : Fault} (ends : Ends outcome allowed good)
    (stopped : outcome = .error fault) : allowed fault := by
  rw [stopped] at ends
  exact ends

theorem Ends.mono {stronger : Value → Prop} (ends : Ends outcome allowed stronger)
    (weaker : ∀ value, stronger value → good value) : Ends outcome allowed good := by
  cases outcome with
  | ok value => exact weaker value ends
  | error fault => exact ends

/-- Which faults are allowed may be forgotten. -/
theorem Ends.allowAny (ends : Ends outcome allowed good) :
    Ends outcome (fun _ => True) good := by
  cases outcome with
  | ok value => exact ends
  | error fault => trivial

/-- Two postconditions of one computation. -/
theorem Ends.and {otherAllowed : Fault → Prop} {better : Value → Prop}
    (first : Ends outcome allowed good) (second : Ends outcome otherAllowed better) :
    Ends outcome (fun fault => allowed fault ∧ otherAllowed fault)
      fun value => good value ∧ better value := by
  cases outcome with
  | ok value => exact ⟨first, second⟩
  | error fault => exact ⟨first, second⟩

/-- The rule of sequencing. -/
theorem Ends.bind {next : Value → Except Fault Next} {after : Next → Prop}
    (first : Ends outcome allowed good)
    (later : ∀ value, good value → Ends (next value) allowed after) :
    Ends (outcome >>= next) allowed after := by
  cases outcome with
  | ok value => exact later value first
  | error fault => exact first

/-- The rule of sequencing when nothing is known of the first part. -/
theorem Ends.bind_of_forall {next : Value → Except Fault Next} {after : Next → Prop}
    (later : ∀ value, Ends (next value) (fun _ => True) after) :
    Ends (outcome >>= next) (fun _ => True) after := by
  cases outcome with
  | ok value => exact later value
  | error fault => trivial

/-- The rule of a loop over a list. -/
theorem Ends.foldlM {body : State → Index → Except Fault State} {invariant : State → Prop}
    (indices : List Index) {start : State} (holds : invariant start)
    (turn : ∀ state, ∀ index ∈ indices, invariant state →
      Ends (body state index) allowed invariant) :
    Ends (indices.foldlM body start) allowed invariant := by
  induction indices generalizing start with
  | nil => exact holds
  | cons index rest inductionHypothesis =>
      rw [List.foldlM_cons]
      apply Ends.bind (turn start index List.mem_cons_self holds)
      intro state holdsNow
      apply inductionHypothesis holdsNow
      intro state later inRest
      exact turn state later (List.mem_cons_of_mem index inRest)

theorem ok_of_toOption {value : Value} (returned : outcome.toOption = some value) :
    outcome = .ok value := by
  cases outcome with
  | error fault => cases returned
  | ok other =>
      cases returned
      rfl

/-- Each result of a map that may fail comes from an element. -/
theorem mem_of_mapM {Item Result : Type} {read : Item → Option Result} {items : List Item}
    {results : List Result} (mapped : items.mapM read = some results) :
    ∀ result ∈ results, ∃ item ∈ items, read item = some result := by
  induction items generalizing results with
  | nil =>
      obtain rfl : [] = results := Option.some.inj mapped
      exact fun result listed => absurd listed List.not_mem_nil
  | cons item rest inductionHypothesis =>
      rw [List.mapM_cons, Option.bind_eq_bind, Option.bind_eq_some_iff] at mapped
      obtain ⟨first, readFirst, mapped⟩ := mapped
      rw [Option.bind_eq_bind, Option.bind_eq_some_iff] at mapped
      obtain ⟨later, readLater, joined⟩ := mapped
      obtain rfl : first :: later = results := Option.some.inj joined
      intro result listed
      rcases List.mem_cons.mp listed with rfl | inLater
      · exact ⟨item, List.mem_cons_self, readFirst⟩
      · obtain ⟨other, inRest, readOther⟩ := inductionHypothesis readLater result inLater
        exact ⟨other, List.mem_cons_of_mem _ inRest, readOther⟩

end Outcome
