import ComparativeLaw.Number.Scalar
import Mathlib.Algebra.Order.Field.Rat
import Mathlib.Algebra.BigOperators.Group.List.Basic
import Mathlib.Tactic.NormNum

namespace ComparativeLaw.Scalar

@[simp] theorem zero_rat : (0.0 : Rat) = 0 := by norm_num

@[simp] theorem one_rat : (1.0 : Rat) = 1 := by norm_num

theorem larger_rat (a b : Rat) : larger a b = max a b := by
  unfold larger
  split
  · next h => exact (max_eq_right h.le).symm
  · next h => exact (max_eq_left (not_lt.mp h)).symm

theorem smaller_rat (a b : Rat) : smaller a b = min a b := by
  unfold smaller
  split
  · next h => exact (min_eq_right h.le).symm
  · next h => exact (min_eq_left (not_lt.mp h)).symm

/-- The clamp keeps a number between zero and its bound. -/
theorem clamp_rat (bound x : Rat) : clamp bound x = max 0 (min bound x) := by
  rw [clamp, larger_rat, smaller_rat, zero_rat]

/-- Nothing is cut off of a number between zero and the bound. -/
theorem clamp_of_mem {bound x : Rat} (h0 : 0 ≤ x) (hb : x ≤ bound) : clamp bound x = x := by
  rw [clamp_rat, min_eq_right hb, max_eq_right h0]

theorem clamp_mem {bound : Rat} (hb : 0 ≤ bound) (x : Rat) :
    0 ≤ clamp bound x ∧ clamp bound x ≤ bound := by
  rw [clamp_rat]
  exact ⟨le_max_left _ _, max_le hb (min_le_left _ _)⟩

theorem sum_rat (xs : List Rat) : sum xs = xs.sum := by
  rw [sum, zero_rat, List.sum_eq_foldl]

end ComparativeLaw.Scalar
