import Mathlib.Data.List.Intervals

/-!
# Intervals of positions cut into blocks

A sequence of blocks of equal width covers an interval of positions block by block.
Selecting the positions of a window leaves an interval again.
-/

namespace Intervals

/-- The positions of one block. -/
def block (width index : Nat) : List Nat :=
  List.Ico (index * width) ((index + 1) * width)

theorem block_eq_map (width index : Nat) :
    block width index = (List.range width).map fun inner => index * width + inner := by
  rw [block, ← List.Ico.zero_bot, List.Ico.map_add, Nat.zero_add, Nat.add_one_mul,
    Nat.add_comm width]

/-- Consecutive blocks cover an interval. -/
theorem flatMap_block (width first : Nat) {last : Nat} (ordered : first ≤ last) :
    (List.Ico first last).flatMap (block width) = List.Ico (first * width) (last * width) := by
  induction last, ordered using Nat.le_induction with
  | base => simp
  | succ last ordered inductionHypothesis =>
      rw [List.Ico.succ_top ordered, List.flatMap_append, inductionHypothesis,
        List.flatMap_singleton, block,
        List.Ico.append_consecutive (Nat.mul_le_mul_right width ordered)
          (Nat.mul_le_mul_right width (Nat.le_succ last))]

/-- Selecting a window of an interval leaves the positions they share. -/
theorem filter_Ico {selected : Nat → Bool} {first last start stop : Nat}
    (window : ∀ position, first ≤ position → position < last →
      (selected position = true ↔ start ≤ position ∧ position < stop)) :
    (List.Ico first last).filter selected = List.Ico (max first start) (min last stop) := by
  have agree : ∀ position ∈ List.Ico first last,
      selected position = (decide (start ≤ position) && decide (position < stop)) := by
    intro position inside
    rw [List.Ico.mem] at inside
    rw [Bool.eq_iff_iff, window position inside.1 inside.2, Bool.and_eq_true,
      decide_eq_true_iff, decide_eq_true_iff]
  rw [List.filter_congr agree, ← List.filter_filter, List.Ico.filter_lt, List.Ico.filter_le]

/-- Selecting a window of an interval that contains it leaves the window. -/
theorem filter_window {selected : Nat → Bool} {first last start stop : Nat}
    (window : ∀ position, first ≤ position → position < last →
      (selected position = true ↔ start ≤ position ∧ position < stop))
    (after : first ≤ start) (before : stop ≤ last) :
    (List.Ico first last).filter selected = List.Ico start stop := by
  rw [filter_Ico window, Nat.max_eq_right after, Nat.min_eq_right before]

/-- An interval begins at its first number and is as long as it is. -/
theorem Ico_add_length (first last : Nat) :
    List.Ico first (first + (List.Ico first last).length) = List.Ico first last := by
  rw [List.Ico.length]
  by_cases empty : last ≤ first
  · rw [Nat.sub_eq_zero_of_le empty, Nat.add_zero, List.Ico.self_empty,
      List.Ico.eq_nil_of_le empty]
  · rw [Nat.add_sub_cancel' (by omega)]

end Intervals
