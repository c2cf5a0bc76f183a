import ScrapeTelemetry.Proofs.Increment.Run
import ScrapeTelemetry.Proofs.KeyMap.Order
import ScrapeTelemetry.Proofs.Number.Exact

/-!
# Samples of a scrape in any order

The ledgers read sums per key and per series, and with exact numbers a sum takes its terms
in any order. So neither what a ledger shows nor what it holds tells how the samples of a
scrape were ordered. Only the routing of a record does, since the first sample of a key
gives it.
-/

set_option autoImplicit false

namespace ScrapeTelemetry
open Scalar

variable {μ α β : Type}

def unrouted (m : KeyMap EntityId (μ × β)) : KeyMap EntityId β := m.mapValues fun _ e => e.2

def amountsByKey (records : List (CounterIncrement μ α)) : List (EntityId × α) :=
  records.map fun r => (r.key, r.amount)

theorem unrouted_list (m : KeyMap EntityId (μ × β)) :
    (unrouted m).toList = m.toList.map fun e => (e.1, e.2.2) := rfl

theorem find_unrouted (m : KeyMap EntityId (μ × β)) (k : EntityId) :
    (unrouted m).find? k = (m.find? k).map Prod.snd :=
  KeyMap.find?_mapValues _ m k

variable [Scalar α]

def histogramsByKey (records : List (HistogramIncrement μ α)) : List (EntityId × Histogram α) :=
  records.map fun r => (r.key, r.histogram)

structure SameCycle (d d' : Increments α) : Prop where
  ingressCounts : amountsByKey d.ingressCounts = amountsByKey d'.ingressCounts
  ingressTiming : histogramsByKey d.ingressTiming = histogramsByKey d'.ingressTiming
  meshCounts : amountsByKey d.meshCounts = amountsByKey d'.meshCounts
  meshTiming : histogramsByKey d.meshTiming = histogramsByKey d'.meshTiming
  stats : d.stats = d'.stats

namespace CounterLedger

theorem amounts_unrouted (f : CounterLedger α) (current : KeyMap EntityId (μ × α)) :
    amountsByKey (f.recordsOf current) = (unrouted current).toList.filterMap fun e =>
      (f.outcome e.1 e.2).increment?.map fun d => (e.1, d) := by
  rw [unrouted_list, amountsByKey, recordsOf, List.map_filterMap, List.filterMap_map]
  simp [Function.comp_def]

theorem stats_unrouted (f : CounterLedger α) (current : KeyMap EntityId (μ × α)) :
    f.stats current =
      { firstSeen := (unrouted current).toList.countP fun e => (f.outcome e.1 e.2).isFirstSeen
        resets := (unrouted current).toList.countP fun e => (f.outcome e.1 e.2).isReset
        records := (amountsByKey (f.recordsOf current)).length } := by
  simp [stats, unrouted_list, amountsByKey, List.countP_map, Function.comp_def]

theorem step_unrouted (f : CounterLedger α) {current current' : KeyMap EntityId (μ × α)}
    (h : unrouted current = unrouted current') :
    (f.step current).1 = (f.step current').1 ∧
      amountsByKey (f.step current).2.1 = amountsByKey (f.step current').2.1 ∧
      (f.step current).2.2 = (f.step current').2.2 := by
  have hamounts : amountsByKey (f.recordsOf current) = amountsByKey (f.recordsOf current') := by
    rw [amounts_unrouted, amounts_unrouted, h]
  refine ⟨congrArg CounterLedger.mk h, hamounts, ?_⟩
  show f.stats current = f.stats current'
  rw [stats_unrouted, stats_unrouted, h, hamounts]

end CounterLedger

namespace HistogramLedger

theorem histograms_unrouted (f : HistogramLedger α)
    (current : KeyMap EntityId (μ × HistogramTotals α)) :
    histogramsByKey (f.recordsOf current) = (unrouted current).toList.filterMap fun e =>
      (f.previous.find? e.1).bind fun before =>
        if HistogramTotals.produces before e.2 then
          some (e.1, HistogramTotals.increments before e.2) else none := by
  rw [unrouted_list, histogramsByKey, recordsOf, List.map_filterMap, List.filterMap_map]
  congr 1
  funext e
  simp only [Option.map_bind, Function.comp_def]
  congr 1
  funext before
  split <;> rfl

theorem stats_unrouted (f : HistogramLedger α)
    (current : KeyMap EntityId (μ × HistogramTotals α)) :
    f.stats current =
      (unrouted current).toList.foldl (fun s e => s + f.entityStats e.1 e.2) .zero := by
  rw [unrouted_list, List.foldl_map, stats]

theorem step_unrouted (f : HistogramLedger α)
    {current current' : KeyMap EntityId (μ × HistogramTotals α)}
    (h : unrouted current = unrouted current') :
    (f.step current).1 = (f.step current').1 ∧
      histogramsByKey (f.step current).2.1 = histogramsByKey (f.step current').2.1 ∧
      (f.step current).2.2 = (f.step current').2.2 := by
  have hhistograms :
      histogramsByKey (f.recordsOf current) = histogramsByKey (f.recordsOf current') := by
    rw [histograms_unrouted, histograms_unrouted, h]
  refine ⟨congrArg HistogramLedger.mk h, hhistograms, ?_⟩
  show f.stats current = f.stats current'
  rw [stats_unrouted, stats_unrouted, h]

end HistogramLedger

/-- The totals of an entity are settled by their series. -/
theorem HistogramTotals.series_injective [DecidableEq α] :
    Function.Injective (HistogramTotals.series : HistogramTotals α → _) := by
  intro c c' h
  have hbuckets : c.buckets = c'.buckets := KeyMap.eq_of_find _ _ fun b => congrFun h (.bucket b)
  have hsum : c.sum = c'.sum := congrFun h .sum
  have hcount : c.count = c'.count := congrFun h .count
  cases c
  cases c'
  simp_all

theorem merged_value_unordered {samples samples' : List (Contribution μ Rat)}
    (h : samples.Perm samples') (k : EntityId) :
    mergedValue samples k = mergedValue samples' k :=
  exact_sum_unordered ((h.filter _).map _) 0

theorem counters_unordered {samples samples' : List (Contribution μ Rat)}
    (h : samples.Perm samples') :
    unrouted (mergeCounters samples) = unrouted (mergeCounters samples') := by
  apply KeyMap.eq_of_find
  intro k
  have hkey : k ∈ keysOf samples ↔ k ∈ keysOf samples' := (h.map _).mem_iff
  rw [find_unrouted, find_unrouted, merge_counters_find, merge_counters_find,
    merged_value_unordered h]
  simp only [hkey]

theorem merged_series_unordered {samples samples' : List (SeriesContribution μ Rat)}
    (h : samples.Perm samples') (k : EntityId) :
    mergedSeries samples k = mergedSeries samples' k := by
  funext r
  have hvalues := (h.filter fun s => s.key = k ∧ s.part = r).map SeriesContribution.value
  unfold mergedSeries
  cases hold : (samples.filter fun s => s.key = k ∧ s.part = r).map SeriesContribution.value with
  | nil =>
    rw [hold] at hvalues
    rw [hvalues.nil_eq]
  | cons v vs =>
    rw [hold] at hvalues
    cases hnew : (samples'.filter fun s => s.key = k ∧ s.part = r).map
        SeriesContribution.value with
    | nil =>
      rw [hnew] at hvalues
      exact absurd hvalues.eq_nil (List.cons_ne_nil v vs)
    | cons w ws =>
      rw [hnew] at hvalues
      exact congrArg some (exact_sum_unordered hvalues 0)

theorem histograms_unordered {samples samples' : List (SeriesContribution μ Rat)}
    (h : samples.Perm samples') :
    unrouted (mergeHistograms samples) = unrouted (mergeHistograms samples') := by
  apply KeyMap.eq_of_find
  intro k
  have hkey : k ∈ seriesKeysOf samples ↔ k ∈ seriesKeysOf samples' := (h.map _).mem_iff
  apply Option.map_injective HistogramTotals.series_injective
  rw [find_unrouted, find_unrouted, Option.map_map, Option.map_map]
  have hold := merge_histograms_find samples k
  have hnew := merge_histograms_find samples' k
  rw [merged_series_unordered h] at hold
  simp only [hkey] at hold
  exact hold.trans hnew.symm

namespace TrafficLedger

theorem step_unordered (l : TrafficLedger Rat) {samples samples' : List (TrafficSample Rat)}
    (h : samples.Perm samples') :
    (l.step samples).1 = (l.step samples').1 ∧
      SameCycle (l.step samples).2 (l.step samples').2 := by
  have hingress : (ingressCountsOf samples).Perm (ingressCountsOf samples') := h.filterMap _
  have hingressTiming : (ingressTimingsOf samples).Perm (ingressTimingsOf samples') :=
    h.filterMap _
  have hmesh : (meshCountsOf samples).Perm (meshCountsOf samples') := h.filterMap _
  have hmeshTiming : (meshTimingsOf samples).Perm (meshTimingsOf samples') := h.filterMap _
  obtain ⟨hheld, hshown, hstats⟩ :=
    l.ingressCounts.step_unrouted (counters_unordered hingress)
  obtain ⟨hheldTiming, hshownTiming, hstatsTiming⟩ :=
    l.ingressTiming.step_unrouted (histograms_unordered hingressTiming)
  obtain ⟨hheldMesh, hshownMesh, hstatsMesh⟩ :=
    l.meshCounts.step_unrouted (counters_unordered hmesh)
  obtain ⟨hheldMeshTiming, hshownMeshTiming, hstatsMeshTiming⟩ :=
    l.meshTiming.step_unrouted (histograms_unordered hmeshTiming)
  constructor
  · simp only [step, hheld, hheldTiming, hheldMesh, hheldMeshTiming]
  · refine ⟨hshown, hshownTiming, hshownMesh, hshownMeshTiming, ?_⟩
    simp only [step, hstats, hstatsTiming, hstatsMesh, hstatsMeshTiming]

/-- With exact numbers a run shows in every cycle the same increments, by key, and the same
bookkeeping, and holds the same values after it, however the samples of each scrape are
ordered. -/
theorem run_unordered (l : TrafficLedger Rat) (cycles cycles' : List (List (TrafficSample Rat)))
    (h : List.Forall₂ List.Perm cycles cycles') :
    List.Forall₂ SameCycle (l.run cycles) (l.run cycles') ∧
      ∀ n, l.after (cycles.take n) = l.after (cycles'.take n) := by
  have hstep (s t : TrafficLedger Rat) (i j : List (TrafficSample Rat)) (hst : s = t)
      (hij : i.Perm j) : (step s i).1 = (step t j).1 ∧ SameCycle (step s i).2 (step t j).2 := by
    rw [hst]
    exact step_unordered t hij
  have hruns {inputs inputs' : List (List (TrafficSample Rat))}
      (hinputs : List.Forall₂ List.Perm inputs inputs') :=
    runs_related step (· = ·) List.Perm SameCycle hstep hinputs l l rfl
  constructor
  · rw [run_outputs, run_outputs]
    exact (hruns h).2
  · intro n
    exact (hruns (List.forall₂_take n h)).1

def shopSamples (v w b : Rat) : List (TrafficSample Rat) :=
  [.ingressCount ⟨⟨.kong, "shop", none, some "/cart", "200", "GET"⟩, v⟩,
    .ingressTiming ⟨⟨.kong, "shop", none, none, "200", "GET"⟩, .bucket (.finite 10), b⟩,
    .ingressCount ⟨⟨.kong, "shop", none, none, "200", "GET"⟩, w⟩]

/-- One row falls while the other grows; only their sum is compared. -/
theorem shop_run_reversed :
    List.Forall₂ List.Perm [shopSamples 100 50 3, shopSamples 90 70 8]
        [(shopSamples 100 50 3).reverse, (shopSamples 90 70 8).reverse] ∧
      ((empty.run [shopSamples 100 50 3, shopSamples 90 70 8]).map Increments.stats) =
        [⟨2, 0, 0⟩, ⟨0, 0, 2⟩] ∧
      List.Forall₂ SameCycle (empty.run [shopSamples 100 50 3, shopSamples 90 70 8])
          (empty.run [(shopSamples 100 50 3).reverse, (shopSamples 90 70 8).reverse]) ∧
        ∀ n, empty.after ([shopSamples 100 50 3, shopSamples 90 70 8].take n) =
          empty.after ([(shopSamples 100 50 3).reverse, (shopSamples 90 70 8).reverse].take n) := by
  have hperm : List.Forall₂ List.Perm [shopSamples 100 50 3, shopSamples 90 70 8]
      [(shopSamples 100 50 3).reverse, (shopSamples 90 70 8).reverse] :=
    .cons (List.reverse_perm _).symm (.cons (List.reverse_perm _).symm .nil)
  exact ⟨hperm, by decide +kernel, run_unordered empty _ _ hperm⟩

end TrafficLedger
end ScrapeTelemetry
