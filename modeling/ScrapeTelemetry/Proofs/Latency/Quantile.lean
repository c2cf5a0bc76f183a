import Mathlib
import ScrapeTelemetry.Latency.Percentile

/-!
# Percentiles as quantiles

The values of a bucket are spread evenly over it, and those beyond the last bound lie
at that bound. How many of them lie at or below a point is a sum over the buckets, and
a percentile is the first point at which this sum reaches its rank. Numbers are exact
here.
-/

set_option autoImplicit false

namespace ScrapeTelemetry

def shareUpTo (x lower upper : Rat) : Rat :=
  if x < lower then 0 else if upper ≤ x then 1 else (x - lower) / (upper - lower)

/-- The number of values at or below a point, of the buckets from `lower` on. Where the
bounds end, the values lie at the last one. -/
def valuesUpTo (x lower : Rat) (bounds : List Rat) : List Nat → Rat
  | [] => 0
  | c :: counts =>
    c * shareUpTo x lower (bounds.headD lower) +
      valuesUpTo x (bounds.headD lower) bounds.tail counts

def AscendingFrom (lower : Rat) (bounds : List Rat) : Prop :=
  (lower :: bounds).Pairwise (· ≤ ·)

theorem AscendingFrom.step {lower : Rat} {bounds : List Rat}
    (h : AscendingFrom lower bounds) : lower ≤ bounds.headD lower := by
  cases bounds with
  | nil => exact le_rfl
  | cons upper bounds => exact (List.pairwise_cons.mp h).1 upper (by simp)

theorem AscendingFrom.rest {lower : Rat} {bounds : List Rat}
    (h : AscendingFrom lower bounds) : AscendingFrom (bounds.headD lower) bounds.tail := by
  cases bounds with
  | nil => exact h
  | cons upper bounds => exact (List.pairwise_cons.mp h).2

theorem last_bound (lower : Rat) (bounds : List Rat) :
    bounds.tail.getLastD (bounds.headD lower) = bounds.getLastD lower := by
  cases bounds with
  | nil => rfl
  | cons upper bounds => exact List.getLastD_cons.symm

theorem share_below {x lower upper : Rat} (h : x < lower) : shareUpTo x lower upper = 0 :=
  if_pos h

theorem share_above {x lower upper : Rat} (hl : lower ≤ upper) (h : upper ≤ x) :
    shareUpTo x lower upper = 1 := by
  unfold shareUpTo
  rw [if_neg (not_lt.mpr (hl.trans h)), if_pos h]

theorem share_inside {x lower upper : Rat} (hl : lower ≤ x) (hu : x < upper) :
    shareUpTo x lower upper = (x - lower) / (upper - lower) := by
  unfold shareUpTo
  rw [if_neg (not_lt.mpr hl), if_neg (not_le.mpr hu)]

theorem share_nonneg (x lower upper : Rat) : 0 ≤ shareUpTo x lower upper := by
  unfold shareUpTo
  split
  · exact le_rfl
  split
  · exact zero_le_one
  · rename_i hl hu
    exact div_nonneg (by linarith) (by linarith)

theorem share_le_one (x lower upper : Rat) : shareUpTo x lower upper ≤ 1 := by
  unfold shareUpTo
  split
  · exact zero_le_one
  split
  · exact le_rfl
  · rename_i hl hu
    exact div_le_one_of_le₀ (by linarith) (by linarith)

theorem values_nonneg (x lower : Rat) (bounds : List Rat) (counts : List Nat) :
    0 ≤ valuesUpTo x lower bounds counts := by
  induction counts generalizing lower bounds with
  | nil => exact le_rfl
  | cons c counts ih =>
    exact add_nonneg (mul_nonneg (Nat.cast_nonneg c) (share_nonneg _ _ _)) (ih _ _)

/-- No value lies below the bound at which the buckets start. -/
theorem values_below {x lower : Rat} {bounds : List Rat} (h : AscendingFrom lower bounds)
    (hx : x < lower) (counts : List Nat) : valuesUpTo x lower bounds counts = 0 := by
  induction counts generalizing lower bounds with
  | nil => rfl
  | cons c counts ih =>
    rw [valuesUpTo, share_below hx, ih h.rest (hx.trans_le h.step), mul_zero, add_zero]

/-- Counts that are added bucket by bucket add at every point. -/
theorem values_add (x lower : Rat) (bounds : List Rat) (a b : List Nat)
    (h : a.length = b.length) :
    valuesUpTo x lower bounds (List.zipWith (· + ·) a b) =
      valuesUpTo x lower bounds a + valuesUpTo x lower bounds b := by
  induction a generalizing lower bounds b with
  | nil =>
    cases b with
    | nil => exact (add_zero _).symm
    | cons d b => exact absurd h (by simp)
  | cons c a ih =>
    cases b with
    | nil => exact absurd h (by simp)
    | cons d b =>
      rw [List.zipWith_cons_cons, valuesUpTo, valuesUpTo, valuesUpTo,
        ih _ _ _ (Nat.succ.inj h), Nat.cast_add]
      ring

theorem walk_on {last target lower before : Rat} {bounds : List Rat} {c : Nat}
    {counts : List Nat} (h : before + c < target) :
    percentileFrom last target lower before bounds (c :: counts) =
      percentileFrom last target (bounds.headD lower) (before + c) bounds.tail counts :=
  if_pos h

/-- The walk stops in a bucket, or beyond all of them at the last bound. -/
theorem walk_stop {target lower before : Rat} {bounds : List Rat} {c : Nat}
    {counts : List Nat} (h : target ≤ before + c) (hc : c ≠ 0) :
    percentileFrom (bounds.getLastD lower) target lower before bounds (c :: counts) =
      lower + (bounds.headD lower - lower) * (target - before) / c := by
  cases bounds with
  | nil =>
    have hlast : percentileFrom lower target lower before [] (c :: counts) = lower :=
      if_neg (not_lt.mpr h)
    simpa using hlast
  | cons upper bounds => exact (if_neg (not_lt.mpr h)).trans (if_neg hc)

/-- Inside a bucket the interpolated point is the first that reaches the rank. -/
theorem inside_le_iff {x lower upper need : Rat} {c : Nat} (hl : lower ≤ upper)
    (hpos : 0 < need) (hneed : need ≤ c) :
    lower + (upper - lower) * need / c ≤ x ↔ need ≤ c * shareUpTo x lower upper := by
  have hc : (0 : Rat) < c := hpos.trans_le hneed
  have hwidth : 0 ≤ upper - lower := sub_nonneg.mpr hl
  rcases lt_or_ge x lower with hx | hx
  · have hpart : 0 ≤ (upper - lower) * need / c := div_nonneg (mul_nonneg hwidth hpos.le) hc.le
    rw [share_below hx, mul_zero]
    constructor <;> intro h <;> linarith
  rcases lt_or_ge x upper with hu | hu
  · rw [share_inside hx hu, ← mul_div_assoc, le_div_iff₀ (sub_pos.mpr (hx.trans_lt hu)),
      ← le_sub_iff_add_le', div_le_iff₀ hc]
    constructor <;> intro h <;> linarith
  · have hpart : (upper - lower) * need / c ≤ upper - lower :=
      div_le_of_le_mul₀ hc.le hwidth (mul_le_mul_of_nonneg_left hneed hwidth)
    rw [share_above hl hu, mul_one]
    exact iff_of_true (by linarith) hneed

/-- At any point the first bucket is full or the others are still empty. -/
theorem full_or_empty (x : Rat) {lower : Rat} {bounds : List Rat} (counts : List Nat)
    (h : AscendingFrom lower bounds) :
    shareUpTo x lower (bounds.headD lower) = 1 ∨
      valuesUpTo x (bounds.headD lower) bounds.tail counts = 0 := by
  rcases lt_or_ge x (bounds.headD lower) with hx | hx
  · exact .inr (values_below h.rest hx counts)
  · exact .inl (share_above h.step hx)

/-- The walk stops at the first point up to which `target` values lie. -/
theorem walk_le_iff (x target lower before : Rat) (bounds : List Rat) (counts : List Nat)
    (hasc : AscendingFrom lower bounds) (hbefore : before < target)
    (hreached : target ≤ before + counts.sum) :
    percentileFrom (bounds.getLastD lower) target lower before bounds counts ≤ x ↔
      target ≤ before + valuesUpTo x lower bounds counts := by
  induction counts generalizing lower before bounds with
  | nil =>
    rw [List.sum_nil, Nat.cast_zero, add_zero] at hreached
    exact absurd hbefore (not_lt.mpr hreached)
  | cons c counts ih =>
    have hshare := share_le_one x lower (bounds.headD lower)
    have hrest := values_nonneg x (bounds.headD lower) bounds.tail counts
    have hcase := full_or_empty x counts hasc
    rw [valuesUpTo]
    rcases lt_or_ge (before + c) target with hon | hstop
    · rw [List.sum_cons, Nat.cast_add, ← add_assoc] at hreached
      rw [walk_on hon, ← last_bound, ih _ _ _ hasc.rest hon hreached]
      -- the rank lies beyond this bucket, so it takes all of it and some of the rest
      rcases hcase with hfull | hempty
      · rw [hfull, mul_one, add_assoc]
      · have hpart := mul_le_mul_of_nonneg_left hshare (Nat.cast_nonneg c)
        rw [hempty]
        exact iff_of_false (by linarith) (by linarith)
    · have hc : c ≠ 0 := by
        rintro rfl
        rw [Nat.cast_zero, add_zero] at hstop
        exact absurd hbefore (not_lt.mpr hstop)
      rw [walk_stop hstop hc,
        inside_le_iff hasc.step (sub_pos.mpr hbefore) (sub_le_iff_le_add'.mpr hstop)]
      rcases hcase with hfull | hempty
      · rw [hfull, mul_one]
        exact iff_of_true (by linarith) (by linarith)
      · rw [hempty, add_zero, sub_le_iff_le_add']

def usedCounts (bounds : List Rat) (counts : List Nat) : List Nat :=
  counts.take (bounds.length + 1)

theorem total_count_sum (counts : List Nat) : totalCount counts = min countLimit counts.sum := by
  have hfold (total : Nat) (h : total ≤ countLimit) :
      counts.foldl (fun total c => min countLimit (total + c)) total =
        min countLimit (total + counts.sum) := by
    induction counts generalizing total with
    | nil => exact (min_eq_right h).symm
    | cons c counts ih =>
      rw [List.foldl_cons, ih _ (min_le_left _ _), List.sum_cons]
      omega
  unfold totalCount
  rw [hfold 0 (Nat.zero_le _), Nat.zero_add]

theorem total_count_pos {counts : List Nat} (h : counts.sum ≠ 0) :
    (0 : Rat) < totalCount counts := by
  have hlimit : 0 < countLimit := by decide
  rw [Nat.cast_pos, total_count_sum]
  omega

theorem total_count_le (counts : List Nat) : (totalCount counts : Rat) ≤ counts.sum := by
  rw [Nat.cast_le, total_count_sum]
  exact min_le_right _ _

theorem percentile_low (bounds : List Rat) (counts : List Nat) (p : Rat) (h : p ≤ 0) :
    percentile bounds counts p = 0 :=
  if_pos (.inr (.inr h))

theorem percentile_open {bounds : List Rat} {counts : List Nat} {p : Rat}
    (hsome : (usedCounts bounds counts).sum ≠ 0) (h0 : 0 < p) :
    percentile bounds counts p =
      if 1 ≤ p then bounds.getLastD 0
      else percentileFrom (bounds.getLastD 0) (totalCount (usedCounts bounds counts) * p) 0 0
        bounds (usedCounts bounds counts) := by
  apply if_neg
  rintro (hnone | hnan | hlow)
  · have hlimit : countLimit ≠ 0 := by decide
    change totalCount (usedCounts bounds counts) = 0 at hnone
    rw [total_count_sum] at hnone
    omega
  · exact Bool.noConfusion hnan
  · exact absurd h0 (not_lt.mpr hlow)

theorem percentile_high {bounds : List Rat} {counts : List Nat} {p : Rat}
    (hsome : (usedCounts bounds counts).sum ≠ 0) (h : 1 ≤ p) :
    percentile bounds counts p = bounds.getLastD 0 := by
  rw [percentile_open hsome (zero_lt_one.trans_le h), if_pos h]

/-- A percentile is the first point up to which its share of the counted values lies. -/
theorem percentile_reached_iff {bounds : List Rat} {counts : List Nat} {p : Rat} (x : Rat)
    (hasc : AscendingFrom 0 bounds) (hsome : (usedCounts bounds counts).sum ≠ 0)
    (h0 : 0 < p) (h1 : p < 1) :
    percentile bounds counts p ≤ x ↔
      totalCount (usedCounts bounds counts) * p ≤
        valuesUpTo x 0 bounds (usedCounts bounds counts) := by
  have hpos := total_count_pos hsome
  rw [percentile_open hsome h0, if_neg (not_le.mpr h1),
    walk_le_iff x _ 0 0 bounds _ hasc (mul_pos hpos h0), zero_add]
  rw [zero_add]
  exact (mul_le_of_le_one_right hpos.le h1.le).trans (total_count_le _)

/-- A percentile is the first point up to which its share of all values lies. -/
theorem percentile_le_iff {bounds : List Rat} {counts : List Nat} {p : Rat} (x : Rat)
    (hasc : AscendingFrom 0 bounds) (hsome : (usedCounts bounds counts).sum ≠ 0)
    (hfits : (usedCounts bounds counts).sum ≤ countLimit) (h0 : 0 < p) (h1 : p < 1) :
    percentile bounds counts p ≤ x ↔
      (usedCounts bounds counts).sum * p ≤ valuesUpTo x 0 bounds (usedCounts bounds counts) := by
  rw [percentile_reached_iff x hasc hsome h0 h1, total_count_sum, min_eq_right hfits]

theorem used_counts_add (bounds : List Rat) (a b : List Nat) :
    usedCounts bounds (List.zipWith (· + ·) a b) =
      List.zipWith (· + ·) (usedCounts bounds a) (usedCounts bounds b) :=
  List.take_zipWith

/-- A percentile of two distributions together lies between those of the two: where both
have their share of values, so have they together, and where they have it together, one of
them has it. -/
theorem percentile_of_sum_between (bounds : List Rat) (a b : List Nat) (p : Rat)
    (hasc : AscendingFrom 0 bounds) (hlen : a.length = b.length)
    (ha : (usedCounts bounds a).sum ≠ 0) (hb : (usedCounts bounds b).sum ≠ 0)
    (hfits : (usedCounts bounds (List.zipWith (· + ·) a b)).sum ≤ countLimit) :
    min (percentile bounds a p) (percentile bounds b p) ≤
        percentile bounds (List.zipWith (· + ·) a b) p ∧
      percentile bounds (List.zipWith (· + ·) a b) p ≤
        max (percentile bounds a p) (percentile bounds b p) := by
  have hused : (usedCounts bounds a).length = (usedCounts bounds b).length := by
    rw [usedCounts, usedCounts, List.length_take, List.length_take, hlen]
  have hsum : (usedCounts bounds (List.zipWith (· + ·) a b)).sum =
      (usedCounts bounds a).sum + (usedCounts bounds b).sum := by
    rw [used_counts_add, List.sum_add_sum_eq_sum_zipWith_of_length_eq _ _ hused]
  have hab : (usedCounts bounds (List.zipWith (· + ·) a b)).sum ≠ 0 := by omega
  rcases le_or_gt p 0 with hlow | h0
  · simp only [percentile_low _ _ _ hlow, min_self, max_self, le_refl, and_self]
  rcases le_or_gt 1 p with hhigh | h1
  · simp only [percentile_high ha hhigh, percentile_high hb hhigh, percentile_high hab hhigh,
      min_self, max_self, le_refl, and_self]
  have hiff (x : Rat) : percentile bounds (List.zipWith (· + ·) a b) p ≤ x ↔
      (usedCounts bounds a).sum * p + (usedCounts bounds b).sum * p ≤
        valuesUpTo x 0 bounds (usedCounts bounds a) +
          valuesUpTo x 0 bounds (usedCounts bounds b) := by
    rw [percentile_le_iff x hasc hab hfits h0 h1, hsum, used_counts_add,
      values_add _ _ _ _ _ hused, Nat.cast_add, add_mul]
  have hA (x : Rat) := percentile_le_iff x hasc ha (by omega) h0 h1
  have hB (x : Rat) := percentile_le_iff x hasc hb (by omega) h0 h1
  constructor
  · rw [min_le_iff, hA, hB]
    by_contra hneither
    rw [not_or, not_le, not_le] at hneither
    exact absurd ((hiff _).mp le_rfl) (not_le.mpr (add_lt_add hneither.1 hneither.2))
  · rw [hiff]
    exact add_le_add ((hA _).mp (le_max_left _ _)) ((hB _).mp (le_max_right _ _))

theorem percentile_of_sum_three_buckets :
    percentile [10, 10, 40, 100] [1, 0, 3, 4, 9] (1 / 2 : Rat) = 100 ∧
    percentile [10, 10, 40, 100] [0, 6, 0, 0, 2] (1 / 2 : Rat) = 10 ∧
    percentile [10, 10, 40, 100] [1, 6, 3, 4, 11] (1 / 2 : Rat) = 155 / 2 ∧
    AscendingFrom 0 [10, 10, 40, 100] ∧
    (usedCounts [10, 10, 40, 100] [1, 0, 3, 4, 9]).sum ≠ 0 ∧
    (usedCounts [10, 10, 40, 100] [0, 6, 0, 0, 2]).sum ≠ 0 ∧
    (usedCounts [10, 10, 40, 100] [1, 6, 3, 4, 11]).sum ≤ countLimit ∧
    (min (percentile [10, 10, 40, 100] [1, 0, 3, 4, 9] (1 / 2 : Rat))
        (percentile [10, 10, 40, 100] [0, 6, 0, 0, 2] (1 / 2)) ≤
      percentile [10, 10, 40, 100] [1, 6, 3, 4, 11] (1 / 2) ∧
    percentile [10, 10, 40, 100] [1, 6, 3, 4, 11] (1 / 2) ≤
      max (percentile [10, 10, 40, 100] [1, 0, 3, 4, 9] (1 / 2 : Rat))
        (percentile [10, 10, 40, 100] [0, 6, 0, 0, 2] (1 / 2))) := by
  have hasc : AscendingFrom 0 [10, 10, 40, 100] := by
    simp only [AscendingFrom]
    decide
  exact ⟨by decide +kernel, by decide +kernel, by decide +kernel, hasc, by decide, by decide,
    by decide, percentile_of_sum_between [10, 10, 40, 100] [1, 0, 3, 4, 9] [0, 6, 0, 0, 2]
      (1 / 2) hasc rfl (by decide) (by decide) (by decide)⟩

end ScrapeTelemetry
