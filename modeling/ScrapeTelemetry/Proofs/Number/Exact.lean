import Mathlib
import ScrapeTelemetry.Number.Scalar

/-!
# Exact numbers

What the operations on numbers come to where nothing is rounded and every number is
finite.
-/

set_option autoImplicit false

namespace ScrapeTelemetry
open Scalar

theorem larger_exact (a b : Rat) : larger a b = max a b := by
  have hplain : larger a b = if a < b then b else a := rfl
  rw [hplain, max_def]
  split <;> split <;> linarith

theorem smaller_exact (a b : Rat) : smaller a b = min a b := by
  have hplain : smaller a b = if b < a then b else a := rfl
  rw [hplain, min_def]
  split <;> split <;> linarith

theorem same_exact (a b : Rat) : same a b = true ↔ a = b := by
  have hplain : same a b = true ↔ a ≤ b ∧ b ≤ a := by simp [same]
  rw [hplain, le_antisymm_iff]

theorem int_exact (n : ℤ) : (ofInt n : Rat) = n := by
  have hplain : (ofInt n : Rat) = if n < 0 then -(n.natAbs : Rat) else n.natAbs := rfl
  rw [hplain, Nat.cast_natAbs]
  split
  · rename_i hneg
    rw [abs_of_neg hneg, Int.cast_neg, neg_neg]
  · rename_i hnonneg
    rw [abs_of_nonneg (not_lt.mp hnonneg)]

/-- A sum that is not rounded takes its terms in any order. -/
theorem exact_sum_unordered {l l' : List Rat} (h : l.Perm l') (x : Rat) :
    l.foldl (· + ·) x = l'.foldl (· + ·) x := by
  apply h.foldl_eq'
  intro a _ b _ y
  exact add_right_comm y a b

theorem truncate_exact (n : ℕ) : truncate (n : Rat) = min countLimit n := by
  have hfloor : (n : Rat).floor = n := Rat.floor_intCast n
  have hplain : truncate (n : Rat) = min countLimit (n : Rat).floor.toNat := rfl
  rw [hplain, hfloor, Int.toNat_natCast]

/-- A whole number is its own count, up to the largest that a bucket holds. -/
theorem nearest_count_exact (n : ℕ) : nearestCount (n : Rat) = min countLimit n := by
  have hplain : nearestCount (n : Rat) =
      if decide (0 < (n : Rat)) = true then
        min countLimit (if ratOfDecimal ⟨false, 5, -1⟩ ≤ n - (truncate (n : Rat) : ℕ) then
          truncate (n : Rat) + 1 else truncate (n : Rat))
      else 0 := rfl
  have hhalf : 0 < ratOfDecimal ⟨false, 5, -1⟩ := by decide +kernel
  rw [hplain, truncate_exact]
  split
  · rcases le_total n countLimit with hle | hge
    · rw [min_eq_right hle, sub_self, if_neg (not_le.mpr hhalf), min_eq_right hle]
    · rw [min_eq_left hge]
      split <;> omega
  · rename_i hzero
    rw [decide_eq_true_eq, Nat.cast_pos, Nat.pos_iff_ne_zero, not_not] at hzero
    rw [hzero, Nat.min_zero]

theorem nearest_count_nonpos {a : Rat} (h : a ≤ 0) : nearestCount a = 0 := by
  have hnot : ¬ (isFinite a && decide (0 < a)) = true := by
    rw [Bool.and_eq_true, decide_eq_true_eq, not_and]
    exact fun _ => not_lt.mpr h
  exact if_neg hnot

end ScrapeTelemetry
