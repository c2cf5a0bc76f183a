import ScrapeTelemetry.Proofs.Increment.SeriesTotals
import ScrapeTelemetry.Proofs.Latency.Spread

/-!
# Histograms that grow

Where a cumulative histogram lost nothing in any bucket, its increments over a cycle are
a cumulative histogram themselves, and what they count in each bucket is the difference of
what was counted there. Numbers are exact here.
-/

set_option autoImplicit false

namespace ScrapeTelemetry
open Scalar

theorem differences_nonneg {us vs : List Rat} (h : List.Forall₂ (· ≤ ·) us vs) :
    ∀ d ∈ List.zipWith (· - ·) vs us, 0 ≤ d := by
  induction h with
  | nil => exact fun d hd => absurd hd List.not_mem_nil
  | cons huv _ ih =>
    intro d hd
    rcases List.mem_cons.mp hd with rfl | hd
    · exact sub_nonneg.mpr huv
    · exact ih d hd

theorem grown_exact {b v : Rat} (h : b ≤ v) : grown? (some b) (some v) = some (v - b) :=
  if_pos h

/-- The increment of a series that both cycles have, or of one that both are without. -/
theorem grown_total {before now : Option Rat} (h : Option.Rel (· ≤ ·) before now) :
    (grown? before now).elim 0 (0 + ·) = now.getD 0 - before.getD 0 := by
  cases h with
  | some h =>
    rw [grown_exact h]
    exact zero_add _
  | none => exact (sub_self _).symm

theorem total_le {before now : Option Rat} (h : Option.Rel (· ≤ ·) before now) :
    before.getD 0 ≤ now.getD 0 := by
  cases h with
  | some h => exact h
  | none => exact le_rfl

namespace HistogramTotals

def histogram {α : Type} [Scalar α] (c : HistogramTotals α) : Histogram α :=
  ⟨c.buckets, c.sum.getD 0, c.count.getD 0⟩

structure Counted (c : HistogramTotals Rat) : Prop where
  cumulative : c.histogram.Cumulative
  count : c.count.isSome

structure Grown (before now : HistogramTotals Rat) : Prop where
  bounds : before.histogram.bounds = now.histogram.bounds
  steps : List.Forall₂ (· ≤ ·) before.histogram.steps now.histogram.steps
  sum : Option.Rel (· ≤ ·) before.sum now.sum

theorem counted_of_entries {c : HistogramTotals Rat} (l : List (UpperBound Rat × ℕ)) (n : ℕ)
    (hbuckets : c.buckets.toList = l.map fun e => (e.1, ofNat e.2)) (hcount : c.count = some n)
    (hasc : l.Pairwise fun a b => a.2 ≤ b.2)
    (hlayout : ∀ e ∈ l, e.1.isFinite = true ∨ e.1 = .posInf) (hlast : (.posInf, n) ∈ l) :
    c.Counted := by
  have hcount' : c.histogram.count = ofNat n := congrArg (Option.getD · 0) hcount
  refine ⟨⟨Histogram.whole_of_entries l n hbuckets hcount', ?_, ?_, ?_⟩, by rw [hcount]; rfl⟩
  · have htotals : c.histogram.buckets.toList = l.map fun e => (e.1, ofNat e.2) := hbuckets
    rw [htotals, List.pairwise_map]
    exact hasc.imp fun h => Nat.cast_le.mpr h
  · intro b hb
    have hbounds : c.histogram.bounds = c.buckets.toList.map Prod.fst := rfl
    rw [hbounds, hbuckets, List.map_map, List.mem_map] at hb
    obtain ⟨e, he, rfl⟩ := hb
    exact hlayout e he
  · rw [hcount', ← KeyMap.mem_toList]
    exact hbuckets ▸ List.mem_map.mpr ⟨(.posInf, n), hlast, rfl⟩

namespace Grown

variable {before now : HistogramTotals Rat}

theorem value_le (hg : Grown before now) (b : UpperBound Rat) :
    before.histogram.valueAt b ≤ now.histogram.valueAt b := by
  by_cases hb : b ∈ now.histogram.bounds
  · have hsteps := hg.steps
    rw [Histogram.steps, Histogram.steps, hg.bounds] at hsteps
    exact le_of_steps_le _ _ _ 0 0 le_rfl hsteps b hb
  · rw [Histogram.value_absent_exact _ b hb,
      Histogram.value_absent_exact _ b (by rwa [hg.bounds])]

theorem find_increment (hg : Grown before now) (b : UpperBound Rat)
    (hb : b ∈ now.histogram.bounds) :
    (increments before now).buckets.find? b =
      some (now.histogram.valueAt b - before.histogram.valueAt b) := by
  have hbefore : before.series (.bucket b) = some (before.histogram.valueAt b) :=
    Histogram.find_value before.histogram b (by rwa [hg.bounds])
  have hnow : now.series (.bucket b) = some (now.histogram.valueAt b) :=
    Histogram.find_value now.histogram b hb
  rw [increments_bucket, hbefore, hnow, Option.bind_some, Option.map_some,
    grown_exact (hg.value_le b), Option.getD_some]
  exact congrArg some (zero_add _)

theorem increments_bounds (hg : Grown before now) :
    (increments before now).bounds = now.histogram.bounds := by
  apply KeyMap.keys_eq_of_mem
  intro b
  constructor
  · intro hb
    rw [KeyMap.mem_keys, increments_bucket] at hb
    obtain ⟨w, hw⟩ := Option.isSome_iff_exists.mp hb
    obtain ⟨x, -, hx⟩ := Option.bind_eq_some_iff.mp hw
    obtain ⟨v, hv, -⟩ := Option.map_eq_some_iff.mp hx
    exact (KeyMap.mem_keys _ b).mpr (Option.isSome_iff_exists.mpr ⟨v, hv⟩)
  · intro hb
    rw [KeyMap.mem_keys, hg.find_increment b hb]
    rfl

theorem spread_bounds (hg : Grown before now) :
    before.histogram.spread.bounds = now.histogram.spread.bounds := by
  rw [Histogram.spread_bounds, Histogram.spread_bounds, hg.bounds]

theorem increments_spread_bounds (hg : Grown before now) :
    (increments before now).spread.bounds = now.histogram.spread.bounds := by
  rw [Histogram.spread_bounds, Histogram.spread_bounds, hg.increments_bounds]

theorem increments_value (hg : Grown before now) (b : UpperBound Rat)
    (hb : b ∈ now.histogram.bounds) :
    (increments before now).valueAt b =
      now.histogram.valueAt b - before.histogram.valueAt b := by
  rw [Histogram.valueAt, hg.find_increment b hb]
  rfl

theorem sum_le (hg : Grown before now) : before.histogram.sum ≤ now.histogram.sum :=
  total_le hg.sum

theorem increments_sum (hg : Grown before now) :
    (increments before now).sum = now.histogram.sum - before.histogram.sum := by
  rw [increments_eq]
  exact grown_total hg.sum

/-- The bucket counts of the increments are the differences of the bucket counts. -/
theorem increments_steps (hg : Grown before now) :
    (increments before now).steps =
      List.zipWith (· - ·) now.histogram.steps before.histogram.steps := by
  have hvalues : now.histogram.bounds.map (increments before now).valueAt =
      now.histogram.bounds.map fun b =>
        now.histogram.valueAt b - before.histogram.valueAt b :=
    List.map_congr_left hg.increments_value
  have hsub := steps_sub now.histogram.bounds before.histogram.valueAt now.histogram.valueAt 0 0
  rw [sub_zero] at hsub
  rw [Histogram.steps, hg.increments_bounds, hvalues, hsub, Histogram.steps, Histogram.steps,
    hg.bounds]

variable (hb : before.Counted) (hn : now.Counted)
include hb hn

theorem count_le (hg : Grown before now) : before.histogram.count ≤ now.histogram.count := by
  rw [← hb.cumulative.overflow_value, ← hn.cumulative.overflow_value]
  exact hg.value_le .posInf

theorem count (hg : Grown before now) : Option.Rel (· ≤ ·) before.count now.count := by
  obtain ⟨m, hm⟩ := Option.isSome_iff_exists.mp hb.count
  obtain ⟨n, hn'⟩ := Option.isSome_iff_exists.mp hn.count
  have hle := hg.count_le hb hn
  rw [histogram, histogram, hm, hn'] at hle
  rw [hm, hn']
  exact .some hle

theorem increments_count (hg : Grown before now) :
    (increments before now).count = now.histogram.count - before.histogram.count := by
  rw [increments_eq]
  exact grown_total (hg.count hb hn)

theorem produces_record (hg : Grown before now) : produces before now = true := by
  obtain ⟨m, hm⟩ := Option.isSome_iff_exists.mp hb.count
  obtain ⟨n, hn'⟩ := Option.isSome_iff_exists.mp hn.count
  have hcount := hg.count hb hn
  rw [hm, hn'] at hcount
  cases hcount with
  | some hle =>
    refine (produces_iff before now).mpr ⟨.count, ?_⟩
    rw [series, series, hm, hn', grown_exact hle]
    rfl

theorem increments_whole (hg : Grown before now) : (increments before now).Whole := by
  have hdiff {m n : Rat} (hm : ∃ i : ℕ, m = i) (hn : ∃ i : ℕ, n = i) (hle : m ≤ n) :
      ∃ i : ℕ, n - m = i := by
    obtain ⟨i, rfl⟩ := hm
    obtain ⟨j, rfl⟩ := hn
    exact ⟨j - i, (Nat.cast_sub (Nat.cast_le.mp hle)).symm⟩
  constructor
  · intro e he
    have hbound : e.1 ∈ now.histogram.bounds := by
      rw [← hg.increments_bounds]
      exact List.mem_map_of_mem he
    rw [← Histogram.value_of_mem _ he, hg.increments_value e.1 hbound]
    exact hdiff (hb.cumulative.whole.value e.1) (hn.cumulative.whole.value e.1)
      (hg.value_le e.1)
  · rw [hg.increments_count hb hn]
    exact hdiff hb.cumulative.whole.count hn.cumulative.whole.count (hg.count_le hb hn)

/-- The increments of a cumulative histogram that grew are one themselves. -/
theorem increments_cumulative (hg : Grown before now) : (increments before now).Cumulative := by
  refine ⟨hg.increments_whole hb hn, ?_, ?_, ?_⟩
  · -- values ascend where no step is negative, and the steps here are differences of steps
    have hsteps := hg.increments_steps
    have hasc := ascending_of_steps 0 ((increments before now).bounds.map
      (increments before now).valueAt) (by
        rw [← Histogram.steps, hsteps]
        exact differences_nonneg hg.steps)
    rw [Histogram.values_eq] at hasc
    exact List.pairwise_map.mp (List.pairwise_cons.mp hasc).2
  · rw [hg.increments_bounds]
    exact hn.cumulative.layout
  · rw [hg.find_increment _ hn.cumulative.mem_overflow, hg.increments_count hb hn,
      hb.cumulative.overflow_value, hn.cumulative.overflow_value]

end Grown
end HistogramTotals
end ScrapeTelemetry
