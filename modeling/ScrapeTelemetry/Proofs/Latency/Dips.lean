import ScrapeTelemetry.Proofs.Latency.Spread

/-!
# Counts of values that dip

A bucket that was reset may hold less than one below it. Its observations are then taken
for none, and those of the next bucket are counted from the highest value so far. So the
counts up to a bound add up to the highest value up to it, wherever values dip.
-/

set_option autoImplicit false

namespace ScrapeTelemetry
open Scalar

theorem counts_length {α : Type} [Scalar α] (before : α) (values : List α) :
    (countsBetween before values).1.length = values.length := by
  induction values generalizing before with
  | nil => rfl
  | cons v values ih => exact congrArg Nat.succ (ih (larger before v))

/-- The first counts are those of the first values. -/
theorem counts_take {α : Type} [Scalar α] (before : α) (values : List α) (n : ℕ) :
    (countsBetween before values).1.take n = (countsBetween before (values.take n)).1 := by
  induction values generalizing before n with
  | nil => rw [List.take_nil]; exact List.take_nil
  | cons v values ih =>
    cases n with
    | zero => rfl
    | succ n => exact congrArg _ (ih (larger before v) n)

def IsCount (v : Rat) : Prop := ∃ n : ℕ, v = n ∧ n ≤ countLimit

theorem zero_is_count : IsCount 0 := ⟨0, Nat.cast_zero.symm, Nat.zero_le _⟩

theorem IsCount.nonneg {v : Rat} (h : IsCount v) : 0 ≤ v := by
  obtain ⟨n, rfl, -⟩ := h
  exact Nat.cast_nonneg n

theorem IsCount.max {v w : Rat} (hv : IsCount v) (hw : IsCount w) : IsCount (max v w) := by
  rcases max_choice v w with h | h <;> rw [h]
  · exact hv
  · exact hw

/-- A count raises what was counted before to the value of its bucket. -/
theorem count_raises {before v : Rat} (hbefore : IsCount before) (hv : IsCount v) :
    before + nearestCount (v - before) = max before v := by
  obtain ⟨p, rfl, -⟩ := hbefore
  obtain ⟨n, rfl, hn⟩ := hv
  rcases le_total p n with hle | hle
  · rw [← Nat.cast_sub hle, nearest_count_exact, min_eq_right (by omega), ← Nat.cast_add,
      Nat.add_sub_cancel' hle, max_eq_right (Nat.cast_le.mpr hle)]
  · have hle' : (n : Rat) ≤ p := Nat.cast_le.mpr hle
    rw [nearest_count_nonpos (sub_nonpos.mpr hle'), Nat.cast_zero, add_zero, max_eq_left hle']

theorem top_is_highest (before : Rat) (values : List Rat) :
    (countsBetween before values).2 = values.foldl max before := by
  induction values generalizing before with
  | nil => rfl
  | cons v values ih =>
    have hstep : (countsBetween before (v :: values)).2 =
        (countsBetween (larger before v) values).2 := rfl
    rw [hstep, larger_exact, ih, List.foldl_cons]

/-- What was counted is the highest value, also if a lower one came after it. -/
theorem counts_sum (before : Rat) (values : List Rat) (hbefore : IsCount before)
    (hvalues : ∀ v ∈ values, IsCount v) :
    before + ((countsBetween before values).1.sum : ℕ) = values.foldl max before := by
  induction values generalizing before with
  | nil => exact add_zero before
  | cons v values ih =>
    have hv := hvalues v List.mem_cons_self
    have hstep : (countsBetween before (v :: values)).1 =
        nearestCount (v - before) :: (countsBetween (larger before v) values).1 := rfl
    rw [hstep, larger_exact, List.sum_cons, Nat.cast_add, ← add_assoc, count_raises hbefore hv,
      List.foldl_cons]
    exact ih _ (hbefore.max hv) fun w hw => hvalues w (List.mem_cons_of_mem _ hw)

theorem highest_greatest (before : Rat) (values : List Rat) :
    IsGreatest (insert before {v | v ∈ values}) (values.foldl max before) := by
  induction values generalizing before with
  | nil => simp
  | cons v values ih =>
    obtain ⟨hreached, hbound⟩ := ih (max before v)
    rw [List.foldl_cons]
    constructor
    · rcases hreached with hmax | hlater
      · rw [hmax]
        rcases max_choice before v with hfirst | hfirst <;> rw [hfirst]
        · exact .inl rfl
        · exact .inr List.mem_cons_self
      · exact .inr (List.mem_cons_of_mem v hlater)
    · have hfirst := hbound (.inl rfl)
      rintro w (rfl | hw)
      · exact (le_max_left _ _).trans hfirst
      · rcases List.mem_cons.mp hw with rfl | hw
        · exact (le_max_right _ _).trans hfirst
        · exact hbound (.inr hw)

theorem highest_is_count (before : Rat) (values : List Rat) (hbefore : IsCount before)
    (hvalues : ∀ v ∈ values, IsCount v) : IsCount (values.foldl max before) := by
  rcases (highest_greatest before values).1 with h | h
  · rwa [h]
  · exact hvalues _ h

/-- Without a start, if there is a value and none is negative. -/
theorem highest_greatest_nonneg {values : List Rat} (hne : values ≠ [])
    (hnonneg : ∀ v ∈ values, 0 ≤ v) : IsGreatest {v | v ∈ values} (values.foldl max 0) := by
  obtain ⟨hreached, hbound⟩ := highest_greatest 0 values
  refine ⟨?_, fun w hw => hbound (.inr hw)⟩
  rcases hreached with hzero | hreached
  · obtain ⟨v, hv⟩ := List.exists_mem_of_ne_nil values hne
    have hle := hbound (.inr hv)
    rw [hzero] at hle ⊢
    rwa [← le_antisymm hle (hnonneg v hv)]
  · exact hreached

namespace Histogram

theorem spread_counts_eq (h : Histogram Rat) :
    h.spread.counts = (countsBetween 0 (h.finiteBuckets.map Prod.snd)).1 ++
      [nearestCount (h.observations - (h.finiteBuckets.map Prod.snd).foldl max 0)] := by
  rw [← top_is_highest]
  rfl

theorem spread_length (h : Histogram Rat) :
    h.spread.counts.length = h.spread.bounds.length + 1 := by
  have hbounds : h.spread.bounds = h.finiteBuckets.map Prod.fst := rfl
  rw [spread_counts_eq, List.length_append, counts_length, hbounds, List.length_map,
    List.length_map, List.length_singleton]

theorem finite_below_iff (a b : Rat) :
    compare (UpperBound.finite a) (.finite b) = .lt ↔ a < b := by
  have hplain : compare (UpperBound.finite a) (.finite b) = compareOfLessAndEq a b := rfl
  rw [hplain, compareOfLessAndEq_eq_lt]

theorem spread_ascending (h : Histogram Rat) : h.spread.bounds.Pairwise (· < ·) := by
  have hasc : (h.spread.bounds.map UpperBound.finite).Pairwise fun a b => compare a b = .lt := by
    rw [finite_bounds]
    exact (KeyMap.keys_ascending h.buckets).filter _
  refine (List.pairwise_map.mp hasc).imp ?_
  intro a b hab
  exact (finite_below_iff a b).mp hab

def lowest (h : Histogram Rat) (n : ℕ) : Set Rat :=
  {v | ∃ b ∈ h.spread.bounds.take n, h.valueAt (.finite b) = v}

theorem mem_lowest (h : Histogram Rat) (n : ℕ) (v : Rat) :
    v ∈ h.lowest n ↔ v ∈ (h.finiteBuckets.map Prod.snd).take n := by
  rw [finite_values, ← List.map_take, List.mem_map]
  rfl

section Sums
variable {h : Histogram Rat} (hbuckets : ∀ e ∈ h.buckets.toList, IsCount e.2)
include hbuckets

theorem finite_values_are_counts : ∀ v ∈ h.finiteBuckets.map Prod.snd, IsCount v := by
  intro v hv
  obtain ⟨⟨b, w⟩, hb, rfl⟩ := List.mem_map.mp hv
  obtain ⟨e, he, hmade⟩ := List.mem_filterMap.mp hb
  obtain ⟨x, -, hpair⟩ := Option.map_eq_some_iff.mp hmade
  cases hpair
  exact hbuckets e he

theorem observations_is_count (hcount : IsCount h.count) : IsCount h.observations := by
  rw [observations_exact]
  cases hf : h.overflowBound? with
  | none => exact hcount
  | some f =>
    have hmem := (KeyMap.mem_toList _ _ _).mpr (find_value h f (List.mem_of_find?_eq_some hf))
    exact (hbuckets _ hmem).max hcount

/-- The counts of the lowest buckets add up to the highest value among them. -/
theorem prefix_sum (n : ℕ) (hn : n ≤ h.spread.bounds.length) :
    ((h.spread.counts.take n).sum : ℕ) =
      ((h.finiteBuckets.map Prod.snd).take n).foldl max 0 := by
  have hbounds : h.spread.bounds.length = h.finiteBuckets.length := List.length_map _
  have hcounts : h.spread.counts.take n =
      (countsBetween 0 ((h.finiteBuckets.map Prod.snd).take n)).1 := by
    rw [spread_counts_eq, List.take_append_of_le_length, counts_take]
    rwa [counts_length, List.length_map, ← hbounds]
  have hsum := counts_sum 0 ((h.finiteBuckets.map Prod.snd).take n) zero_is_count
    fun v hv => finite_values_are_counts hbuckets v (List.mem_of_mem_take hv)
  rw [hcounts, ← hsum, zero_add]

/-- The last count raises the highest value to the observations. -/
theorem counts_total (hcount : IsCount h.count) :
    (h.spread.counts.sum : ℕ) =
      max ((h.finiteBuckets.map Prod.snd).foldl max 0) h.observations := by
  have hvalues := finite_values_are_counts hbuckets
  have hsum := counts_sum 0 _ zero_is_count hvalues
  rw [zero_add] at hsum
  rw [spread_counts_eq, List.sum_append, List.sum_singleton, Nat.cast_add, hsum]
  exact count_raises (highest_is_count 0 _ zero_is_count hvalues)
    (observations_is_count hbuckets hcount)

end Sums

/-- Of whole values that a count can hold, the counts up to each finite bound add up to the
highest value up to it, and all counts to the highest value or the observations, whichever
is more. -/
theorem counts_reach_highest (h : Histogram Rat)
    (hbuckets : ∀ e ∈ h.buckets.toList, IsCount e.2) (hcount : IsCount h.count) :
    h.spread.bounds.map .finite = h.bounds.filter UpperBound.isFinite ∧
      h.spread.bounds.Pairwise (· < ·) ∧
      h.spread.counts.length = h.spread.bounds.length + 1 ∧
      (∀ i < h.spread.bounds.length,
        IsGreatest (h.lowest (i + 1)) ((h.spread.counts.take (i + 1)).sum : ℕ)) ∧
      IsGreatest (insert h.observations (h.lowest h.spread.bounds.length))
        (h.spread.counts.sum : ℕ) := by
  have hvalues := finite_values_are_counts hbuckets
  have hlength : (h.finiteBuckets.map Prod.snd).length = h.spread.bounds.length := by
    rw [finite_values, List.length_map]
  refine ⟨finite_bounds h, spread_ascending h, spread_length h, ?_, ?_⟩
  · intro i hi
    have hlowest : h.lowest (i + 1) = {v | v ∈ (h.finiteBuckets.map Prod.snd).take (i + 1)} :=
      Set.ext (mem_lowest h (i + 1))
    rw [hlowest, prefix_sum hbuckets (i + 1) hi]
    apply highest_greatest_nonneg
    · apply List.ne_nil_of_length_pos
      rw [List.length_take, hlength]
      omega
    · exact fun v hv => (hvalues v (List.mem_of_mem_take hv)).nonneg
  · have hlowest : h.lowest h.spread.bounds.length = {v | v ∈ h.finiteBuckets.map Prod.snd} := by
      ext v
      rw [mem_lowest, List.take_of_length_le hlength.le]
      rfl
    have hobs : max h.observations 0 = h.observations :=
      max_eq_left (observations_is_count hbuckets hcount).nonneg
    have hfold : (h.finiteBuckets.map Prod.snd).foldl max (max h.observations 0) =
        max h.observations ((h.finiteBuckets.map Prod.snd).foldl max 0) := List.foldl_assoc
    rw [hobs] at hfold
    rw [hlowest, counts_total hbuckets hcount, max_comm, ← hfold]
    exact highest_greatest _ _

def dipped : Histogram Rat :=
  ((((empty.addToBucket (.finite 10) 5).addToBucket (.finite 20) 3).addToBucket (.finite 40)
    8).addToBucket .posInf 2).addToCount 9

theorem dipped_counts_reach_highest :
    (∀ e ∈ dipped.buckets.toList, IsCount e.2) ∧ IsCount dipped.count ∧
      dipped.spread.counts = [5, 0, 3, 1] ∧
      (∀ i < dipped.spread.bounds.length,
        IsGreatest (dipped.lowest (i + 1)) ((dipped.spread.counts.take (i + 1)).sum : ℕ)) ∧
      IsGreatest (insert dipped.observations (dipped.lowest dipped.spread.bounds.length))
        (dipped.spread.counts.sum : ℕ) := by
  have hentries : dipped.buckets.toList =
      [(.finite 10, 5), (.finite 20, 3), (.finite 40, 8), (.posInf, 2)] := by decide +kernel
  have hbuckets : ∀ e ∈ dipped.buckets.toList, IsCount e.2 := by
    rw [hentries]
    simp only [List.forall_mem_cons]
    exact ⟨⟨5, by decide +kernel⟩, ⟨3, by decide +kernel⟩, ⟨8, by decide +kernel⟩,
      ⟨2, by decide +kernel⟩, List.forall_mem_nil _⟩
  have hcount : IsCount dipped.count := ⟨9, by decide +kernel⟩
  obtain ⟨-, -, -, hprefix, htotal⟩ := counts_reach_highest dipped hbuckets hcount
  exact ⟨hbuckets, hcount, by decide +kernel, hprefix, htotal⟩

end Histogram
end ScrapeTelemetry
