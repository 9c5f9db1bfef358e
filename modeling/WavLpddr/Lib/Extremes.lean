import Mathlib.Order.Bounds.Basic
import Mathlib.Order.Nat

/-!
# The ends of a search

A search from a start stops at the first value with a property: the least one from the start
upwards, or the greatest one from the start downwards.  A value without the property moves the
start on.
-/

namespace Extremes

variable {property : Nat → Prop} {start index : Nat}

theorem isLeast_of_holds (here : property start) :
    IsLeast {code | start ≤ code ∧ property code} index ↔ index = start := by
  have least : IsLeast {code | start ≤ code ∧ property code} start :=
    ⟨⟨Nat.le_refl start, here⟩, fun _ listed => listed.1⟩
  exact ⟨fun other => other.unique least, fun same => same ▸ least⟩

theorem isLeast_succ (notHere : ¬ property start) :
    IsLeast {code | start ≤ code ∧ property code} index ↔
      IsLeast {code | start + 1 ≤ code ∧ property code} index := by
  have same : {code | start ≤ code ∧ property code} =
      {code | start + 1 ≤ code ∧ property code} := by
    ext code
    constructor
    · rintro ⟨after, holds⟩
      exact ⟨Nat.lt_of_le_of_ne after fun atStart => notHere (atStart ▸ holds), holds⟩
    · exact fun listed => ⟨Nat.le_of_succ_le listed.1, listed.2⟩
  rw [same]

theorem isGreatest_of_holds (here : property start) :
    IsGreatest {code | code ≤ start ∧ property code} index ↔ index = start := by
  have greatest : IsGreatest {code | code ≤ start ∧ property code} start :=
    ⟨⟨Nat.le_refl start, here⟩, fun _ listed => listed.1⟩
  exact ⟨fun other => other.unique greatest, fun same => same ▸ greatest⟩

theorem isGreatest_succ (notHere : ¬ property (start + 1)) :
    IsGreatest {code | code ≤ start + 1 ∧ property code} index ↔
      IsGreatest {code | code ≤ start ∧ property code} index := by
  have same : {code | code ≤ start + 1 ∧ property code} =
      {code | code ≤ start ∧ property code} := by
    ext code
    constructor
    · rintro ⟨before, holds⟩
      have notLast : code ≠ start + 1 := fun atStart => notHere (atStart ▸ holds)
      exact ⟨by omega, holds⟩
    · exact fun listed => ⟨Nat.le_succ_of_le listed.1, listed.2⟩
  rw [same]

end Extremes
