import ScrapeTelemetry.Proofs.Increment.Growth
import ScrapeTelemetry.Proofs.Increment.HistogramCycle
import ScrapeTelemetry.Proofs.Window.Increase

/-!
# Increments and windows

The increments of a histogram over one cycle take differences of cumulative values and
count them bucket by bucket; a window counts first and takes differences then. Where no
bucket lost anything both show the same latency, as long as the counts can tell what
the values hold.
-/

set_option autoImplicit false

namespace ScrapeTelemetry
open Scalar

/-- What a count holds of `now` and `before` tells their difference: `now` is no more
than a count can hold, or nothing was there before or came since. -/
def Fits (before now : Rat) : Prop := now ≤ countLimit ∨ before = 0 ∨ before = now

theorem count_difference (m n : ℕ) (h : m ≤ n) :
    nearestCount ((n : Rat) - m) =
        (if nearestCount (m : Rat) ≤ nearestCount (n : Rat) then
          nearestCount (n : Rat) - nearestCount (m : Rat) else nearestCount (n : Rat)) ↔
      Fits m n := by
  have hlimit : 0 < countLimit := by decide
  rw [← Nat.cast_sub h, nearest_count_exact, nearest_count_exact, nearest_count_exact, Fits,
    Nat.cast_le, Nat.cast_eq_zero, Nat.cast_inj]
  -- counts keep the order of the values, so the sides differ by what the limit cuts off
  split <;> omega

theorem counts_difference {us vs : List Rat} (h : List.Forall₂ (· ≤ ·) us vs)
    (hus : ∀ u ∈ us, ∃ n : ℕ, u = n) (hvs : ∀ v ∈ vs, ∃ n : ℕ, v = n) :
    (List.zipWith (· - ·) vs us).map nearestCount =
        bucketIncrements (us.map nearestCount) (vs.map nearestCount) ↔
      List.Forall₂ Fits us vs := by
  induction h with
  | nil => exact iff_of_true rfl .nil
  | @cons u v us vs huv _ ih =>
    obtain ⟨m, rfl⟩ := hus u List.mem_cons_self
    obtain ⟨n, rfl⟩ := hvs v List.mem_cons_self
    have hrest := ih (fun w hw => hus w (List.mem_cons_of_mem _ hw))
      fun w hw => hvs w (List.mem_cons_of_mem _ hw)
    rw [List.forall₂_cons, List.zipWith_cons_cons, List.map_cons, List.map_cons, List.map_cons,
      bucketIncrements, List.cons_eq_cons, hrest, count_difference m n (Nat.cast_le.mp huv)]

theorem same_bounds_self (l : List Rat) : sameBounds l l = true := by
  induction l with
  | nil => rfl
  | cons a l ih => rw [sameBounds, ih, (same_exact a a).mpr rfl, Bool.and_self]

def Snapshot.ofTotals {α : Type} [Scalar α] (taken : Option Instant) (requests errors : α)
    (c : HistogramTotals α) : Snapshot α :=
  { Snapshot.ofHistogram requests errors c.histogram with takenAt := taken }

namespace HistogramTotals.Grown

variable {before now : HistogramTotals Rat} (hb : before.Counted) (hn : now.Counted)
include hb hn

theorem increments_counts (hg : Grown before now) :
    (increments before now).spread.counts = bucketIncrements before.histogram.spread.counts
        now.histogram.spread.counts ↔
      List.Forall₂ Fits before.histogram.steps now.histogram.steps := by
  rw [(hg.increments_cumulative hb hn).spread_counts, hb.cumulative.spread_counts,
    hn.cumulative.spread_counts, hg.increments_steps]
  exact counts_difference hg.steps hb.cumulative.steps_whole hn.cumulative.steps_whole

variable (start stop : Option Instant) (requests errors requests' errors' : Rat)
  (q : WindowRequest)

theorem window_mean (hg : Grown before now) :
    (increments before now).mean = (summarize (.ofTotals start requests errors before)
      (.ofTotals stop requests' errors' now) q).latency.mean := by
  have hcount := (hg.increments_cumulative hb hn).observations_eq
  have hbefore := hb.cumulative.observations_eq
  have hnow := hn.cumulative.observations_eq
  have hmean : (summarize (.ofTotals start requests errors before)
      (.ofTotals stop requests' errors' now) q).latency.mean =
        if 0 < windowIncrease before.histogram.observations now.histogram.observations then
          windowIncrease before.histogram.sum now.histogram.sum /
            windowIncrease before.histogram.observations now.histogram.observations
        else 0 := rfl
  rw [hmean, hbefore, hnow, window_increase_exact (hg.count_le hb hn),
    window_increase_exact hg.sum_le, ← hg.increments_count hb hn, ← hg.increments_sum,
    Histogram.mean, hcount]
  by_cases hpos : 0 < (increments before now).count
  · exact (if_neg (not_le.mpr hpos)).trans (if_pos hpos).symm
  · exact (if_pos (not_lt.mp hpos)).trans (if_neg hpos).symm

theorem window_percentiles (hg : Grown before now)
    (hfits : List.Forall₂ Fits before.histogram.steps now.histogram.steps) :
    (increments before now).percentiles = (summarize (.ofTotals start requests errors before)
      (.ofTotals stop requests' errors' now) q).latency.percentiles := by
  have hwindow : (summarize (.ofTotals start requests errors before)
      (.ofTotals stop requests' errors' now) q).latency.percentiles =
        .estimate now.histogram.spread.bounds
          (if sameBounds before.histogram.spread.bounds now.histogram.spread.bounds then
            bucketIncrements before.histogram.spread.counts now.histogram.spread.counts
          else now.histogram.spread.counts) := rfl
  -- the layouts are the same, so the window does not take the later counts whole
  rw [hwindow, hg.spread_bounds, same_bounds_self, if_pos rfl,
    ← (hg.increments_counts hb hn).mpr hfits, Histogram.percentiles, hg.increments_spread_bounds]

end HistogramTotals.Grown

variable {μ : Type}

/-- Of a cumulative histogram that grew in every bucket a ledger makes one record. It has
the bounds that a window sees and the same mean, and its bucket counts are those of the
window exactly if they fit; then the window shows the same latency. -/
theorem HistogramLedger.record_agrees_with_window (f : HistogramLedger Rat)
    (current : KeyMap EntityId (μ × HistogramTotals Rat)) (k : EntityId) (routing : μ)
    (before now : HistogramTotals Rat) (hbefore : f.previous.find? k = some before)
    (hnow : current.find? k = some (routing, now)) (hb : before.Counted) (hn : now.Counted)
    (hg : HistogramTotals.Grown before now) (start stop : Option Instant)
    (requests errors requests' errors' : Rat) (q : WindowRequest) :
    ∃ e, ((f.step current).2.1.filter fun r => r.key = k) = [e] ∧
      e.histogram.spread.bounds =
        (Snapshot.ofTotals start requests errors before).bounds ∧
      e.histogram.spread.bounds =
        (Snapshot.ofTotals stop requests' errors' now).bounds ∧
      (e.histogram.spread.counts = bucketIncrements
          (Snapshot.ofTotals start requests errors before).buckets
          (Snapshot.ofTotals stop requests' errors' now).buckets ↔
        List.Forall₂ Fits before.histogram.steps now.histogram.steps) ∧
      e.histogram.mean = (summarize (.ofTotals start requests errors before)
        (.ofTotals stop requests' errors' now) q).latency.mean ∧
      (List.Forall₂ Fits before.histogram.steps now.histogram.steps →
        LatencyFigures.ofHistogram e.histogram =
          (summarize (.ofTotals start requests errors before)
            (.ofTotals stop requests' errors' now) q).latency) := by
  have hmean := hg.window_mean hb hn start stop requests errors requests' errors' q
  refine ⟨⟨k, routing, HistogramTotals.increments before now⟩, ?_, ?_, ?_,
    hg.increments_counts hb hn, hmean, fun hfits => ?_⟩
  · refine (records_of_key f current k).trans ?_
    rw [hnow, hbefore, Option.bind_some, Option.bind_some, if_pos (hg.produces_record hb hn)]
    rfl
  · exact hg.increments_spread_bounds.trans hg.spread_bounds.symm
  · exact hg.increments_spread_bounds
  · have hpercentiles :=
      hg.window_percentiles hb hn start stop requests errors requests' errors' q hfits
    calc
      LatencyFigures.ofHistogram (HistogramTotals.increments before now) =
          ⟨(HistogramTotals.increments before now).mean,
            (HistogramTotals.increments before now).percentiles⟩ := rfl
      _ = _ := by rw [hmean, hpercentiles]

def totalsOf (buckets : List (UpperBound Rat × ℕ)) (sum count : ℕ) : HistogramTotals Rat where
  buckets := .ofList (buckets.map fun e => (e.1, ofNat e.2))
  sum := some (ofNat sum)
  count := some (ofNat count)

def shopOnly {β : Type} (v : β) : KeyMap EntityId β := KeyMap.empty.insert ⟨"shop"⟩ v

theorem shop_find {β : Type} (v : β) : (shopOnly v).find? ⟨"shop"⟩ = some v :=
  (KeyMap.find?_insert _ _ _ _).trans (if_pos rfl)

namespace HistogramLedger

def sixObserved : HistogramTotals Rat :=
  totalsOf [(.finite 10, 2), (.finite 50, 5), (.posInf, 6)] 90 6

def elevenObserved : HistogramTotals Rat :=
  totalsOf [(.finite 10, 4), (.finite 50, 9), (.posInf, 11)] 170 11

theorem six_and_eleven_agree :
    (shopOnly sixObserved).find? ⟨"shop"⟩ = some sixObserved ∧
    (shopOnly ((), elevenObserved)).find? ⟨"shop"⟩ = some ((), elevenObserved) ∧
    sixObserved.Counted ∧ elevenObserved.Counted ∧
    HistogramTotals.Grown sixObserved elevenObserved ∧
    ∃ e, ((HistogramLedger.step ⟨shopOnly sixObserved⟩
        (shopOnly ((), elevenObserved))).2.1.filter fun r => r.key = ⟨"shop"⟩) = [e] ∧
      e.histogram.spread.counts = bucketIncrements
        (Snapshot.ofTotals none 6 0 sixObserved).buckets
        (Snapshot.ofTotals none 11 0 elevenObserved).buckets ∧
      LatencyFigures.ofHistogram e.histogram =
        (summarize (.ofTotals none 6 0 sixObserved) (.ofTotals none 11 0 elevenObserved)
          .default).latency := by
  have hb : sixObserved.Counted :=
    HistogramTotals.counted_of_entries [(.finite 10, 2), (.finite 50, 5), (.posInf, 6)] 6
      (by decide +kernel) rfl (by decide +kernel) (by decide +kernel) (by decide +kernel)
  have hn : elevenObserved.Counted :=
    HistogramTotals.counted_of_entries [(.finite 10, 4), (.finite 50, 9), (.posInf, 11)] 11
      (by decide +kernel) rfl (by decide +kernel) (by decide +kernel) (by decide +kernel)
  have hg : HistogramTotals.Grown sixObserved elevenObserved :=
    ⟨by decide +kernel, by decide +kernel, .some (by decide +kernel)⟩
  have hfits : List.Forall₂ Fits sixObserved.histogram.steps elevenObserved.histogram.steps := by
    unfold Fits
    decide +kernel
  obtain ⟨e, he, -, -, hcounts, -, hlatency⟩ := record_agrees_with_window
    ⟨shopOnly sixObserved⟩ (shopOnly ((), elevenObserved)) ⟨"shop"⟩ () sixObserved
    elevenObserved (shop_find _) (shop_find _) hb hn hg none none 6 0 11 0 .default
  exact ⟨shop_find _, shop_find _, hb, hn, hg, e, he, hcounts.mpr hfits, hlatency hfits⟩

def fullBucket : HistogramTotals Rat :=
  totalsOf [(.finite 10, countLimit + 1), (.posInf, countLimit + 1)] 0 (countLimit + 1)

def twiceFull : HistogramTotals Rat :=
  totalsOf [(.finite 10, 2 * (countLimit + 1)), (.posInf, 2 * (countLimit + 1))] 0
    (2 * (countLimit + 1))

/-- A bucket that was full already shows no growth to a window. -/
theorem full_bucket_hides_growth :
    ¬ ∀ (f : HistogramLedger Rat) (current : KeyMap EntityId (Unit × HistogramTotals Rat))
      (k : EntityId) (before now : HistogramTotals Rat), f.previous.find? k = some before →
      current.find? k = some ((), now) → before.Counted → now.Counted →
      HistogramTotals.Grown before now → ∀ e ∈ (f.step current).2.1, e.key = k →
        e.histogram.spread.counts = bucketIncrements before.histogram.spread.counts
          now.histogram.spread.counts ∧
        LatencyFigures.ofHistogram e.histogram =
          (summarize (.ofTotals none 0 0 before) (.ofTotals none 0 0 now) .default).latency := by
  intro h
  have hb : fullBucket.Counted :=
    HistogramTotals.counted_of_entries
      [(.finite 10, countLimit + 1), (.posInf, countLimit + 1)] (countLimit + 1)
      (by decide +kernel) rfl (by decide +kernel) (by decide +kernel) (by decide +kernel)
  have hn : twiceFull.Counted :=
    HistogramTotals.counted_of_entries
      [(.finite 10, 2 * (countLimit + 1)), (.posInf, 2 * (countLimit + 1))]
      (2 * (countLimit + 1)) (by decide +kernel) rfl (by decide +kernel) (by decide +kernel)
      (by decide +kernel)
  have hg : HistogramTotals.Grown fullBucket twiceFull :=
    ⟨by decide +kernel, by decide +kernel, .some (by decide +kernel)⟩
  have hrecord : ⟨⟨"shop"⟩, (), HistogramTotals.increments fullBucket twiceFull⟩ ∈
      (HistogramLedger.step ⟨shopOnly fullBucket⟩ (shopOnly ((), twiceFull))).2.1 :=
    (mem_histogram_records _ _ _).mpr ⟨fullBucket, twiceFull, shop_find _, shop_find _,
      hg.produces_record hb hn, rfl⟩
  have hcounts := (h ⟨shopOnly fullBucket⟩ (shopOnly ((), twiceFull)) ⟨"shop"⟩ fullBucket
    twiceFull (shop_find _) (shop_find _) hb hn hg _ hrecord rfl).1
  exact absurd hcounts (by decide +kernel)

end HistogramLedger
end ScrapeTelemetry
