import ScrapeTelemetry.Proofs.Latency.Quantile

/-!
# Percentiles grow with their share

A larger share of the values is reached no earlier. The smallest percentile is zero and the
largest is the last bound, whatever was counted where and however many counts there are for
the bounds.
-/

set_option autoImplicit false

namespace ScrapeTelemetry

theorem AscendingFrom.last {lower : Rat} {bounds : List Rat}
    (h : AscendingFrom lower bounds) : lower ≤ bounds.getLastD lower := by
  rcases List.mem_cons.mp (List.getLastD_mem_cons (l := bounds) (a := lower)) with he | he
  · exact he.ge
  · exact (List.pairwise_cons.mp h).1 _ he

/-- All values lie at or below the last bound. -/
theorem values_above {x lower : Rat} {bounds : List Rat} (h : AscendingFrom lower bounds)
    (hx : bounds.getLastD lower ≤ x) (counts : List Nat) :
    valuesUpTo x lower bounds counts = counts.sum := by
  induction counts generalizing lower bounds with
  | nil => exact Nat.cast_zero.symm
  | cons c counts ih =>
    rw [← last_bound] at hx
    have hupper : bounds.headD lower ≤ x := h.rest.last.trans hx
    rw [valuesUpTo, share_above h.step hupper, ih h.rest hx, mul_one, List.sum_cons, Nat.cast_add]

theorem percentile_none {bounds : List Rat} {counts : List Nat}
    (hnone : (usedCounts bounds counts).sum = 0) (p : Rat) : percentile bounds counts p = 0 := by
  apply if_pos
  left
  change totalCount (usedCounts bounds counts) = 0
  rw [total_count_sum, hnone, Nat.min_zero]

section

variable {bounds : List Rat} {counts : List Nat} (hasc : AscendingFrom 0 bounds)
include hasc

theorem percentile_nonneg (p : Rat) : 0 ≤ percentile bounds counts p := by
  rcases eq_or_ne (usedCounts bounds counts).sum 0 with hnone | hsome
  · rw [percentile_none hnone]
  rcases le_or_gt p 0 with hlow | h0
  · rw [percentile_low _ _ _ hlow]
  rcases le_or_gt 1 p with hhigh | h1
  · rw [percentile_high hsome hhigh]
    exact hasc.last
  · by_contra hneg
    -- below zero there is no value, so nothing of a positive share
    have hreached := (percentile_reached_iff _ hasc hsome h0 h1).mp le_rfl
    rw [values_below hasc (not_le.mp hneg)] at hreached
    exact absurd hreached (not_le.mpr (mul_pos (total_count_pos hsome) h0))

theorem percentile_le_last (p : Rat) : percentile bounds counts p ≤ bounds.getLastD 0 := by
  rcases eq_or_ne (usedCounts bounds counts).sum 0 with hnone | hsome
  · rw [percentile_none hnone]
    exact hasc.last
  rcases le_or_gt p 0 with hlow | h0
  · rw [percentile_low _ _ _ hlow]
    exact hasc.last
  rcases le_or_gt 1 p with hhigh | h1
  · rw [percentile_high hsome hhigh]
  · rw [percentile_reached_iff _ hasc hsome h0 h1, values_above hasc le_rfl]
    exact (mul_le_of_le_one_right (Nat.cast_nonneg _) h1.le).trans (total_count_le _)

theorem percentile_mono {p q : Rat} (h : p ≤ q) :
    percentile bounds counts p ≤ percentile bounds counts q := by
  rcases eq_or_ne (usedCounts bounds counts).sum 0 with hnone | hsome
  · rw [percentile_none hnone, percentile_none hnone]
  rcases le_or_gt p 0 with hlow | h0
  · rw [percentile_low _ _ _ hlow]
    exact percentile_nonneg hasc q
  rcases le_or_gt 1 q with hhigh | h1
  · rw [percentile_high hsome hhigh]
    exact percentile_le_last hasc p
  · -- where the larger share is reached, so is the smaller one
    rw [percentile_reached_iff _ hasc hsome h0 (h.trans_lt h1)]
    have hreached := (percentile_reached_iff _ hasc hsome (h0.trans_le h) h1).mp le_rfl
    exact (mul_le_mul_of_nonneg_left h (Nat.cast_nonneg _)).trans hreached

end

/-- With exact numbers percentiles grow from zero to the last bound, and reach both if
anything was counted. -/
theorem percentile_grows (bounds : List Rat) (counts : List Nat) (hasc : AscendingFrom 0 bounds) :
    Monotone (percentile bounds counts) ∧
      (∀ p, 0 ≤ percentile bounds counts p ∧ percentile bounds counts p ≤ bounds.getLastD 0) ∧
      (∀ p ≤ 0, percentile bounds counts p = 0) ∧
      ((usedCounts bounds counts).sum ≠ 0 →
        ∀ p ≥ 1, percentile bounds counts p = bounds.getLastD 0) := by
  refine ⟨?_, ?_, ?_, ?_⟩
  · intro p q h
    exact percentile_mono hasc h
  · intro p
    exact ⟨percentile_nonneg hasc p, percentile_le_last hasc p⟩
  · intro p hlow
    exact percentile_low bounds counts p hlow
  · intro hsome p hhigh
    exact percentile_high hsome hhigh

/-- Fewer counts than bounds, a bucket without width, an empty one and a total that no
counter holds. -/
theorem percentile_grows_past_limit :
    AscendingFrom 0 [10, 10, 40, 100] ∧
    countLimit < (usedCounts [10, 10, 40, 100] [3, countLimit, 0]).sum ∧
    percentile [10, 10, 40, 100] [3, countLimit, 0] (-1 : Rat) = 0 ∧
    percentile [10, 10, 40, 100] [3, countLimit, 0] (1 / 2 : Rat) = 10 ∧
    percentile [10, 10, 40, 100] [3, countLimit, 0] (2 : Rat) = 100 ∧
    percentile [10, 10, 40, 100] [3, countLimit, 0] (-1 : Rat) ≤
      percentile [10, 10, 40, 100] [3, countLimit, 0] (1 / 2) ∧
    percentile [10, 10, 40, 100] [3, countLimit, 0] (1 / 2 : Rat) ≤
      percentile [10, 10, 40, 100] [3, countLimit, 0] 2 := by
  have hasc : AscendingFrom 0 [10, 10, 40, 100] := by
    simp only [AscendingFrom]
    decide
  have hgrows := percentile_grows [10, 10, 40, 100] [3, countLimit, 0] hasc
  exact ⟨hasc, by decide, by decide +kernel, by decide +kernel, by decide +kernel,
    hgrows.1 (by norm_num), hgrows.1 (by norm_num)⟩

end ScrapeTelemetry
