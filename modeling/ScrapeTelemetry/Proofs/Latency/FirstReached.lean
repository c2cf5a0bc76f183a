import ScrapeTelemetry.Proofs.Latency.Quantile

/-!
# The bucket of a percentile

The walk over the buckets stops at the first one up to which the rank is reached. This
bucket is never empty, and the percentile lies between its bounds, as far along as the rank
lies among its values. Numbers are exact here.
-/

set_option autoImplicit false

namespace ScrapeTelemetry

def countBefore (counts : List Nat) (i : ℕ) : ℕ := (counts.take i).sum

def reaching (counts : List Nat) (p : Rat) : Set ℕ :=
  {i | i < counts.length ∧ p * counts.sum ≤ countBefore counts (i + 1)}

def boundBelow (bounds : List Rat) (i : ℕ) : Rat := (0 :: bounds).getD i 0

/-- `x` is where `rank` values lie, of which those of bucket `i` count as spread evenly. -/
structure InBucket (bounds : List Rat) (counts : List Nat) (rank x : Rat) (i : ℕ) : Prop where
  index : i ≤ bounds.length
  occupied : counts.getD i 0 ≠ 0
  inside : ∀ h : i < bounds.length,
    x = boundBelow bounds i + (bounds[i] - boundBelow bounds i) *
      (rank - countBefore counts i) / counts.getD i 0 ∧
    boundBelow bounds i ≤ x ∧ x ≤ bounds[i]
  beyond : i = bounds.length → x = bounds.getLastD 0

@[simp] theorem count_before_zero (counts : List Nat) : countBefore counts 0 = 0 := rfl

@[simp] theorem count_before_succ (c : Nat) (counts : List Nat) (i : ℕ) :
    countBefore (c :: counts) (i + 1) = c + countBefore counts i := by
  simp [countBefore]

theorem count_before_next (counts : List Nat) (i : ℕ) :
    countBefore counts (i + 1) = countBefore counts i + counts.getD i 0 := by
  induction counts generalizing i with
  | nil => simp [countBefore]
  | cons c counts ih => cases i <;> simp [ih, add_assoc]

theorem count_before_all (counts : List Nat) : countBefore counts counts.length = counts.sum := by
  simp [countBefore]

/-- The walk stops in the first bucket up to which the target is reached, whatever lies
behind it. -/
theorem walk_first {target lower before : Rat} {bounds : List Rat} {counts : List Nat} (i : ℕ)
    (hi : i < counts.length) (hbelow : ∀ j ≤ i, before + countBefore counts j < target)
    (hreached : target ≤ before + countBefore counts (i + 1)) :
    percentileFrom (bounds.getLastD lower) target lower before bounds counts =
      (lower :: bounds).getD i (bounds.getLastD lower) +
        (bounds.getD i (bounds.getLastD lower) -
            (lower :: bounds).getD i (bounds.getLastD lower)) *
          (target - (before + countBefore counts i)) / counts.getD i 0 := by
  induction i generalizing lower before bounds counts with
  | zero =>
    cases counts with
    | nil => simp at hi
    | cons c counts =>
      have hfirst : before < target := by simpa using hbelow 0 le_rfl
      have hstop : target ≤ before + c := by simpa using hreached
      have hc : c ≠ 0 := by
        rintro rfl
        rw [Nat.cast_zero, add_zero] at hstop
        exact absurd hfirst (not_lt.mpr hstop)
      rw [walk_stop hstop hc]
      cases bounds <;> simp
  | succ i ih =>
    cases counts with
    | nil => simp at hi
    | cons c counts =>
      have hon : before + c < target := by simpa using hbelow 1 (by omega)
      rw [walk_on hon, ← last_bound, ih (by simpa using hi)]
      · cases bounds <;> simp [add_assoc]
      · intro j hj
        have hlater := hbelow (j + 1) (by omega)
        rw [count_before_succ, Nat.cast_add] at hlater
        linarith
      · rw [count_before_succ, Nat.cast_add] at hreached
        linarith

/-- A point that lies `need` of `c` equal parts along an interval lies in it. -/
theorem point_between {lower upper need : Rat} {c : Nat} (hl : lower ≤ upper) (h0 : 0 ≤ need)
    (hneed : need ≤ c) :
    lower ≤ lower + (upper - lower) * need / c ∧ lower + (upper - lower) * need / c ≤ upper := by
  have hwidth : 0 ≤ upper - lower := sub_nonneg.mpr hl
  have hc : (0 : Rat) ≤ c := h0.trans hneed
  have hpart : 0 ≤ (upper - lower) * need / c := div_nonneg (mul_nonneg hwidth h0) hc
  have hfull : (upper - lower) * need / c ≤ upper - lower :=
    div_le_of_le_mul₀ hc hwidth (mul_le_mul_of_nonneg_left hneed hwidth)
  constructor <;> linarith

theorem bound_at_end (lower d : Rat) (bounds : List Rat) :
    (lower :: bounds).getD bounds.length d = bounds.getLastD lower := by
  induction bounds generalizing lower with
  | nil => rfl
  | cons upper bounds ih =>
    rw [List.length_cons, List.getD_cons_succ, ih, List.getLastD_cons]

theorem AscendingFrom.below {bounds : List Rat} (h : AscendingFrom 0 bounds) (i : ℕ)
    (hi : i < bounds.length) : boundBelow bounds i ≤ bounds[i] := by
  have hpair := List.pairwise_iff_getElem.mp h i (i + 1) (by simp; omega) (by simpa using hi)
    (Nat.lt_succ_self i)
  rw [boundBelow, List.getD_eq_getElem _ _ (by simp; omega)]
  simpa using hpair

/-- Some bucket is the first up to which a share of the values lies. -/
theorem first_reaching {counts : List Nat} {p : Rat} (hsome : counts.sum ≠ 0) (h1 : p ≤ 1) :
    ∃ i, IsLeast (reaching counts p) i := by
  have hne : counts ≠ [] := by
    rintro rfl
    exact hsome rfl
  have hlast : counts.length - 1 + 1 = counts.length :=
    Nat.sub_add_cancel (List.length_pos_iff.mpr hne)
  have hall : counts.length - 1 ∈ reaching counts p := by
    constructor
    · omega
    · rw [hlast, count_before_all]
      exact mul_le_of_le_one_left (Nat.cast_nonneg _) h1
  exact ⟨_, isLeast_csInf ⟨_, hall⟩⟩

/-- Before the first bucket that reaches the rank, all prefixes stay below it. -/
theorem below_first {counts : List Nat} {p : Rat} {i : ℕ} (hsome : counts.sum ≠ 0) (h0 : 0 < p)
    (hi : IsLeast (reaching counts p) i) (j : ℕ) (hj : j ≤ i) :
    (countBefore counts j : Rat) < p * counts.sum := by
  cases j with
  | zero =>
    have hsum : (0 : Rat) < counts.sum := by exact_mod_cast Nat.pos_of_ne_zero hsome
    simpa using mul_pos h0 hsum
  | succ j =>
    have hlen : i < counts.length := hi.1.1
    by_contra hreached
    have hle : i ≤ j := hi.2 ⟨by omega, not_lt.mp hreached⟩
    omega

/-- The walk to a rank below all values ends where the first bucket that reaches it puts it. -/
theorem percentile_of_first {bounds : List Rat} {counts : List Nat} {p : Rat} {i : ℕ}
    (hsome : (usedCounts bounds counts).sum ≠ 0)
    (hfits : (usedCounts bounds counts).sum < 2 ^ 64) (h0 : 0 < p) (h1 : p < 1)
    (hi : IsLeast (reaching (usedCounts bounds counts) p) i) :
    percentile bounds counts p =
      (0 :: bounds).getD i (bounds.getLastD 0) +
        (bounds.getD i (bounds.getLastD 0) - (0 :: bounds).getD i (bounds.getLastD 0)) *
          (p * (usedCounts bounds counts).sum - countBefore (usedCounts bounds counts) i) /
          (usedCounts bounds counts).getD i 0 := by
  have htotal : totalCount (usedCounts bounds counts) = (usedCounts bounds counts).sum := by
    have hlimit : countLimit = 2 ^ 64 - 1 := rfl
    rw [total_count_sum, hlimit]
    omega
  have hbelow := below_first hsome h0 hi
  rw [percentile_open hsome h0, if_neg (not_le.mpr h1), htotal, mul_comm]
  have hwalk := @walk_first (p * (usedCounts bounds counts).sum) 0 0 bounds
    (usedCounts bounds counts) i hi.1.1 (fun j hj => by simpa using hbelow j hj)
    (by simpa using hi.1.2)
  simpa using hwalk

theorem bound_below_eq {bounds : List Rat} {i : ℕ} (hi : i < bounds.length) (d : Rat) :
    (0 :: bounds).getD i d = boundBelow bounds i := by
  have hcons : i < (0 :: bounds).length := Nat.lt_succ_of_lt hi
  rw [boundBelow, List.getD_eq_getElem _ _ hcons, List.getD_eq_getElem _ _ hcons]

/-- The first bucket that reaches the rank holds a value, and the percentile lies in it. -/
theorem percentile_in_first {bounds : List Rat} {counts : List Nat} {p : Rat} {i : ℕ}
    (hasc : AscendingFrom 0 bounds) (hsome : (usedCounts bounds counts).sum ≠ 0)
    (hfits : (usedCounts bounds counts).sum < 2 ^ 64) (h0 : 0 < p) (h1 : p < 1)
    (hi : IsLeast (reaching (usedCounts bounds counts) p) i) :
    InBucket bounds (usedCounts bounds counts) (p * (usedCounts bounds counts).sum)
      (percentile bounds counts p) i := by
  have hvalue := percentile_of_first hsome hfits h0 h1 hi
  have hbelow := below_first hsome h0 hi i le_rfl
  have hreached := hi.1.2
  rw [count_before_next, Nat.cast_add] at hreached
  constructor
  · have hlen := hi.1.1
    rw [usedCounts, List.length_take] at hlen
    omega
  · intro hzero
    rw [hzero, Nat.cast_zero, add_zero] at hreached
    exact absurd hbelow (not_lt.mpr hreached)
  · intro h
    rw [bound_below_eq h, List.getD_eq_getElem bounds _ h] at hvalue
    have hbetween := point_between (hasc.below i h) (sub_nonneg.mpr hbelow.le)
      (sub_le_iff_le_add'.mpr hreached)
    rw [← hvalue] at hbetween
    exact ⟨hvalue, hbetween⟩
  · rintro rfl
    -- the bucket beyond all bounds has no width: it begins and ends at the last one
    rw [hvalue, bound_at_end, List.getD_eq_default _ _ le_rfl, sub_self, zero_mul, zero_div,
      add_zero]

/-- A percentile lies in the first bucket up to which its share of all values is reached.
Some value lies in this bucket, and counts beyond those of the bounds have no influence. -/
theorem percentile_in_first_reached (bounds : List Rat) (counts : List Nat) (p : Rat)
    (hasc : AscendingFrom 0 bounds) (hsome : (usedCounts bounds counts).sum ≠ 0)
    (hfits : (usedCounts bounds counts).sum < 2 ^ 64) (h0 : 0 < p) (h1 : p < 1) :
    (∃ i, IsLeast (reaching (usedCounts bounds counts) p) i ∧
      InBucket bounds (usedCounts bounds counts) (p * (usedCounts bounds counts).sum)
        (percentile bounds counts p) i) ∧
    ∀ counts', usedCounts bounds counts' = usedCounts bounds counts →
      percentile bounds counts' p = percentile bounds counts p := by
  constructor
  · obtain ⟨i, hi⟩ := first_reaching hsome h1.le
    exact ⟨i, hi, percentile_in_first hasc hsome hfits h0 h1 hi⟩
  · intro counts' hused
    unfold percentile
    rw [show counts'.take (bounds.length + 1) = counts.take (bounds.length + 1) from hused]

theorem percentile_in_third_bucket :
    AscendingFrom 0 [10, 10, 40, 100] ∧
    percentile [10, 10, 40, 100] [1, 0, 3, 4, 9, 7] (1 / 4 : Rat) = 175 / 4 ∧
    (∃ i, IsLeast (reaching (usedCounts [10, 10, 40, 100] [1, 0, 3, 4, 9, 7]) (1 / 4)) i ∧
      InBucket [10, 10, 40, 100] (usedCounts [10, 10, 40, 100] [1, 0, 3, 4, 9, 7])
        (1 / 4 * (usedCounts [10, 10, 40, 100] [1, 0, 3, 4, 9, 7]).sum)
        (percentile [10, 10, 40, 100] [1, 0, 3, 4, 9, 7] (1 / 4)) i) := by
  have hasc : AscendingFrom 0 [10, 10, 40, 100] := by
    simp only [AscendingFrom]
    decide
  exact ⟨hasc, by decide +kernel, (percentile_in_first_reached [10, 10, 40, 100]
    [1, 0, 3, 4, 9, 7] (1 / 4) hasc (by decide) (by decide) (by norm_num) (by norm_num)).1⟩

end ScrapeTelemetry
