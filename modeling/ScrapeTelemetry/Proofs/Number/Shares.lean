import ScrapeTelemetry.Counter
import ScrapeTelemetry.Proofs.Number.Exact

/-!
# Shares of a hundred

With exact numbers the share of a part stays below a hundred as long as the part stays below
the total, and the shares of two parts that make up the total make up a hundred.
-/

set_option autoImplicit false

namespace ScrapeTelemetry
open Scalar

theorem share_of_nothing {total : Rat} (h : ¬ 0 < total) (part : Rat) : shareOf part total = 0 :=
  if_pos (not_lt.mp h)

theorem share_of_positive {total : Rat} (h : 0 < total) (part : Rat) :
    shareOf part total = part / total * 100 :=
  if_neg (not_le.mpr h)

theorem share_of_nonneg {part : Rat} (h : 0 ≤ part) (total : Rat) : 0 ≤ shareOf part total := by
  by_cases htotal : 0 < total
  · rw [share_of_positive htotal]
    exact mul_nonneg (div_nonneg h htotal.le) (by norm_num)
  · rw [share_of_nothing htotal]

theorem share_of_le_hundred_iff {total : Rat} (h : 0 < total) (part : Rat) :
    shareOf part total ≤ 100 ↔ part ≤ total := by
  rw [share_of_positive h, mul_le_iff_le_one_left (by norm_num), div_le_one h]

theorem share_of_le_hundred {part total : Rat} (h : part ≤ total) : shareOf part total ≤ 100 := by
  by_cases htotal : 0 < total
  · exact (share_of_le_hundred_iff htotal part).mpr h
  · rw [share_of_nothing htotal]
    norm_num

theorem shares_complementary {part total : Rat} (htotal : 0 < total) :
    shareOf (total - part) total + shareOf part total = 100 := by
  rw [share_of_positive htotal, share_of_positive htotal, ← add_mul, ← add_div, sub_add_cancel,
    div_self htotal.ne', one_mul]

theorem mean_per_second_exact (value seconds : Rat) :
    meanPerSecond value seconds = if seconds ≤ 0 then 0 else value / seconds := rfl

theorem mean_per_second_eq_zero_iff (value seconds : Rat) :
    meanPerSecond value seconds = 0 ↔ value = 0 ∨ seconds ≤ 0 := by
  rw [mean_per_second_exact]
  split
  · rename_i hseconds
    simp [hseconds]
  · rename_i hseconds
    have hne : seconds ≠ 0 := (not_le.mp hseconds).ne'
    simp [hseconds, hne]

theorem mean_per_second_nonneg {value : Rat} (h : 0 ≤ value) (seconds : Rat) :
    0 ≤ meanPerSecond value seconds := by
  rw [mean_per_second_exact]
  split
  · exact le_rfl
  · rename_i hseconds
    exact div_nonneg h (not_le.mp hseconds).le

end ScrapeTelemetry
