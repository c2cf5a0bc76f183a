import ScrapeTelemetry.Proofs.Increment.SeriesTotals
import ScrapeTelemetry.Proofs.Number.Zero
import ScrapeTelemetry.Proofs.Traffic.Families

/-!
# One cycle of histograms

What a ledger of histograms makes of two scrapes in a row. Every series of an entity
is a counter of its own; the record shows the bounds that both cycles have, and what
is held for the next cycle are the series of this one.
-/

set_option autoImplicit false

namespace ScrapeTelemetry
open Scalar

variable {α μ : Type}

def seriesKeysOf (samples : List (SeriesContribution μ α)) : List EntityId :=
  samples.map SeriesContribution.key

variable [Scalar α]

/-- The bookkeeping of a cycle adds up over the entities. -/
theorem stats_total (f : HistogramLedger α) (current : KeyMap EntityId (μ × HistogramTotals α))
    (part : OutcomeCounts → ℕ) (hzero : part .zero = 0)
    (hadd : ∀ a b, part (a + b) = part a + part b) :
    part (f.stats current) =
      (current.toList.map fun e => part (f.entityStats e.1 e.2.2)).sum := by
  have hfold (l : List (EntityId × μ × HistogramTotals α)) (s : OutcomeCounts) :
      part (l.foldl (fun s e => s + f.entityStats e.1 e.2.2) s) =
        part s + (l.map fun e => part (f.entityStats e.1 e.2.2)).sum := by
    induction l generalizing s with
    | nil => rfl
    | cons e l ih => rw [List.foldl_cons, ih, hadd, List.map_cons, List.sum_cons, add_assoc]
  rw [HistogramLedger.stats, hfold, hzero, Nat.zero_add]

theorem histogram_key_sublist (f : HistogramLedger α)
    (current : KeyMap EntityId (μ × HistogramTotals α)) :
    ((f.recordsOf current).map HistogramIncrement.key).Sublist
      (current.toList.map Prod.fst) := by
  unfold HistogramLedger.recordsOf
  induction current.toList with
  | nil => simp
  | cons e l ih =>
    rw [List.filterMap_cons]
    split
    · exact ih.cons e.1
    · rename_i r hr
      obtain ⟨c, -, hc⟩ := Option.bind_eq_some_iff.mp hr
      split at hc
      · cases hc
        exact ih.cons_cons e.1
      · cases hc

theorem mem_histogram_records (f : HistogramLedger α)
    (current : KeyMap EntityId (μ × HistogramTotals α)) (r : HistogramIncrement μ α) :
    r ∈ f.recordsOf current ↔ ∃ before now, f.previous.find? r.key = some before ∧
      current.find? r.key = some (r.routing, now) ∧
      HistogramTotals.produces before now = true ∧
      r.histogram = HistogramTotals.increments before now := by
  simp only [HistogramLedger.recordsOf, List.mem_filterMap, Option.bind_eq_some_iff]
  constructor
  · rintro ⟨⟨k, m, now⟩, he, before, hb, h⟩
    split at h
    · rename_i hp
      cases h
      exact ⟨before, now, hb, (KeyMap.mem_toList _ _ _).mp he, hp, rfl⟩
    · cases h
  · rintro ⟨before, now, hb, hn, hp, hh⟩
    refine ⟨(r.key, r.routing, now), (KeyMap.mem_toList _ _ _).mpr hn, before, hb, ?_⟩
    rw [if_pos hp, ← hh]

/-- The record of a key, if its totals give one. -/
theorem records_of_key (f : HistogramLedger α)
    (current : KeyMap EntityId (μ × HistogramTotals α)) (k : EntityId) :
    ((f.recordsOf current).filter fun r => r.key = k) =
      ((current.find? k).bind fun e => (f.previous.find? k).bind fun before =>
        if HistogramTotals.produces before e.2 then
          some ⟨k, e.1, HistogramTotals.increments before e.2⟩ else none).toList := by
  apply KeyMap.filter_made_key current HistogramIncrement.key
  intro e r hr
  obtain ⟨before, -, hp⟩ := Option.bind_eq_some_iff.mp hr
  split at hp <;> cases hp
  rfl

theorem growth_finite [ZeroNeutral α] (before now : Option α) :
    isFinite ((grown? before now).getD 0) = true := by
  unfold grown?
  split
  · split
    · exact finite_zero_unless _
    · exact ZeroNeutral.zero_finite
  · exact ZeroNeutral.zero_finite

theorem same_growth [ZeroNeutral α] (before now : Option α) :
    same ((grown? before now).elim 0 (0 + ·)) ((grown? before now).getD 0) := by
  have hfinite := growth_finite before now
  cases h : grown? before now with
  | none => exact ZeroNeutral.same_self 0 ZeroNeutral.zero_finite
  | some d =>
    rw [h] at hfinite
    exact ZeroNeutral.same_zero_add d hfinite

variable [DecidableEq α]

def mergedSeries (samples : List (SeriesContribution μ α)) (k : EntityId)
    (r : SeriesRole α) : Option α :=
  match (samples.filter fun s => s.key = k ∧ s.part = r).map SeriesContribution.value with
  | [] => none
  | v :: vs => some ((v :: vs).foldl (· + ·) 0)

def HistogramLedger.Holds (f : HistogramLedger α)
    (samples : List (SeriesContribution μ α)) : Prop :=
  ∀ k, (f.previous.find? k).map HistogramTotals.series =
    if k ∈ seriesKeysOf samples then some (mergedSeries samples k) else none

def contributedSeries (samples : List (SeriesContribution μ α)) : Histograms α :=
  ⟨(seriesKeysOf samples).toFinset, mergedSeries samples⟩

def Histograms.growth (before now : Histograms α) (k : EntityId) (r : SeriesRole α) : Option α :=
  grown? (before.series k r) (now.series k r)

theorem contributed_series (samples : List (SeriesContribution μ α)) :
    (contributedSeries samples).series = mergedSeries samples := rfl

theorem contributed_growth (before now : List (SeriesContribution μ α)) (k : EntityId)
    (r : SeriesRole α) : (contributedSeries before).growth (contributedSeries now) k r =
      grown? (mergedSeries before k r) (mergedSeries now k r) := rfl

/-- What one cycle owes to its own histograms and to those of the cycle before. -/
structure HistogramCycle (before now : Histograms α) (records : List (HistogramIncrement μ α))
    (held : HistogramLedger α) : Prop where
  single : (records.map HistogramIncrement.key).Nodup
  emitted : ∀ k, k ∈ records.map HistogramIncrement.key ↔
    k ∈ before.keys ∧ ∃ r, (before.growth now k r).isSome
  bounds : ∀ e ∈ records, ∀ b, e.histogram.buckets.contains b ↔
    (before.series e.key (.bucket b)).isSome ∧ (now.series e.key (.bucket b)).isSome
  bucket : ∀ e ∈ records, ∀ b v, e.histogram.buckets.find? b = some v →
    same v ((before.growth now e.key (.bucket b)).getD 0)
  sum : ∀ e ∈ records, same e.histogram.sum ((before.growth now e.key .sum).getD 0)
  count : ∀ e ∈ records, same e.histogram.count ((before.growth now e.key .count).getD 0)
  holds : ∀ k, (held.previous.find? k).map HistogramTotals.series =
    if k ∈ now.keys then some (now.series k) else none

theorem merged_series_totals (samples : List (SeriesContribution μ α)) (k : EntityId) :
    mergedSeries samples k = ((samples.filter fun s => s.key = k).foldl
      (fun c s => c.add s.part s.value) HistogramTotals.empty).series := by
  funext r
  have hempty : (HistogramTotals.empty : HistogramTotals α).series r = none := by
    cases r <;> rfl
  have hfilter : (samples.filter fun s => s.key = k ∧ s.part = r) =
      (samples.filter fun s => s.key = k).filter fun s => s.part = r := by
    rw [List.filter_filter]
    congr 1
    funext s
    simp [Bool.and_comm]
  rw [HistogramTotals.series_foldl, hempty, mergedSeries, hfilter]
  cases (samples.filter fun s => s.key = k).filter fun s => s.part = r with
  | nil => rfl
  | cons s l =>
    have hstart := KeyMap.foldl_started (fun _ : SeriesContribution μ α => (0 : α))
      (fun s x => x + s.value) s l
    rw [hstart, ← List.foldl_map (f := SeriesContribution.value)]
    rfl

theorem merge_histograms_find (samples : List (SeriesContribution μ α)) (k : EntityId) :
    ((mergeHistograms samples).find? k).map (fun e => e.2.series) =
      if k ∈ seriesKeysOf samples then some (mergedSeries samples k) else none := by
  have hmerge := KeyMap.find?_merge SeriesContribution.key SeriesContribution.routing
    HistogramTotals.empty (fun c s => c.add s.part s.value) samples k
  have hseries := congrArg (Option.map HistogramTotals.series) hmerge
  rw [Option.map_map] at hseries
  refine hseries.trans ?_
  rw [merged_series_totals]
  unfold seriesKeysOf
  split <;> rfl

theorem empty_ledger_holds : (HistogramLedger.empty : HistogramLedger α).Holds
    ([] : List (SeriesContribution μ α)) := by
  intro k
  simp [HistogramLedger.empty, seriesKeysOf]

theorem step_ledger_holds (f : HistogramLedger α) (now : List (SeriesContribution μ α)) :
    (f.step (mergeHistograms now)).1.Holds now := by
  intro k
  rw [← merge_histograms_find]
  have hvalues := KeyMap.find?_mapValues (fun _ e => e.2) (mergeHistograms now) k
  have hseries := congrArg (Option.map HistogramTotals.series) hvalues
  rw [Option.map_map] at hseries
  exact hseries

theorem merged_series_sample (samples : List (SeriesContribution μ α)) (k : EntityId)
    (r : SeriesRole α) (h : (mergedSeries samples k r).isSome) :
    ∃ s ∈ samples, s.key = k ∧ s.part = r := by
  by_contra hnone
  have hfilter : (samples.filter fun s => s.key = k ∧ s.part = r) = [] := by
    rw [List.filter_eq_nil_iff]
    intro s hs hc
    exact hnone ⟨s, hs, of_decide_eq_true hc⟩
  rw [mergedSeries, hfilter] at h
  cases h

theorem merged_series_key (samples : List (SeriesContribution μ α)) (k : EntityId)
    (r : SeriesRole α) (h : (mergedSeries samples k r).isSome) : k ∈ seriesKeysOf samples := by
  obtain ⟨s, hs, hkey, -⟩ := merged_series_sample samples k r h
  exact List.mem_map.mpr ⟨s, hs, hkey⟩

theorem held_series (f : HistogramLedger α) (samples : List (SeriesContribution μ α))
    (h : f.Holds samples) (k : EntityId) (c : HistogramTotals α)
    (hc : f.previous.find? k = some c) :
    k ∈ seriesKeysOf samples ∧ c.series = mergedSeries samples k := by
  have hk := h k
  rw [hc, Option.map_some] at hk
  split at hk
  · rename_i hmem
    exact ⟨hmem, Option.some.inj hk⟩
  · cases hk

theorem merged_totals_series (samples : List (SeriesContribution μ α)) (k : EntityId)
    (e : μ × HistogramTotals α) (he : (mergeHistograms samples).find? k = some e) :
    e.2.series = mergedSeries samples k := by
  have hk := merge_histograms_find samples k
  rw [he, Option.map_some] at hk
  split at hk
  · exact Option.some.inj hk
  · cases hk

/-- The totals that a record compares are the merged series of both scrapes. -/
theorem record_series (f : HistogramLedger α) (before now : List (SeriesContribution μ α))
    (h : f.Holds before) (e : HistogramIncrement μ α)
    (he : e ∈ f.recordsOf (mergeHistograms now)) :
    ∃ b c : HistogramTotals α, b.series = mergedSeries before e.key ∧
      c.series = mergedSeries now e.key ∧ e.key ∈ seriesKeysOf before ∧
      HistogramTotals.produces b c = true ∧
      e.histogram = HistogramTotals.increments b c := by
  obtain ⟨b, c, hb, hc, hp, hh⟩ := (mem_histogram_records _ _ _).mp he
  obtain ⟨hk, hbs⟩ := held_series f before h e.key b hb
  exact ⟨b, c, hbs, merged_totals_series now e.key _ hc, hk, hp, hh⟩

theorem growth_recorded (f : HistogramLedger α) (before now : List (SeriesContribution μ α))
    (h : f.Holds before) (k : EntityId) (hk : k ∈ seriesKeysOf before) (r : SeriesRole α)
    (hr : (grown? (mergedSeries before k r) (mergedSeries now k r)).isSome) :
    ∃ e ∈ f.recordsOf (mergeHistograms now), e.key = k := by
  have hnow : k ∈ seriesKeysOf now := by
    apply merged_series_key now k r
    cases hv : mergedSeries now k r with
    | none => simp [hv, grown_absent] at hr
    | some v => rfl
  have hb := h k
  have hc := merge_histograms_find now k
  rw [if_pos hk, Option.map_eq_some_iff] at hb
  rw [if_pos hnow, Option.map_eq_some_iff] at hc
  obtain ⟨b, hb, hbs⟩ := hb
  obtain ⟨⟨m, c⟩, hc, hcs⟩ := hc
  have hp : HistogramTotals.produces b c = true := by
    rw [HistogramTotals.produces_iff, hbs, hcs]
    exact ⟨r, hr⟩
  exact ⟨⟨k, m, _⟩, (mem_histogram_records _ _ _).mpr ⟨b, c, hb, hc, hp, rfl⟩, rfl⟩

/-- A ledger that holds the scrape before makes of its own scrape what it should. -/
theorem histogram_step [ZeroNeutral α] (f : HistogramLedger α)
    (before now : List (SeriesContribution μ α)) (h : f.Holds before) :
    HistogramCycle (contributedSeries before) (contributedSeries now)
      (f.recordsOf (mergeHistograms now)) (f.step (mergeHistograms now)).1 := by
  constructor
  case single => exact (histogram_key_sublist _ _).nodup (KeyMap.keys_nodup _)
  case emitted =>
    intro k
    rw [List.mem_map, contributedSeries, List.mem_toFinset]
    constructor
    · rintro ⟨e, he, rfl⟩
      obtain ⟨b, c, hb, hc, hk, hp, -⟩ := record_series f before now h e he
      rw [HistogramTotals.produces_iff, hb, hc] at hp
      exact ⟨hk, hp⟩
    · rintro ⟨hk, r, hr⟩
      exact growth_recorded f before now h k hk r hr
  case bounds =>
    intro e he x
    obtain ⟨b, c, hb, hc, -, -, hh⟩ := record_series f before now h e he
    rw [hh, KeyMap.contains, HistogramTotals.increments_bucket, hb, hc, contributed_series,
      contributed_series]
    cases mergedSeries before e.key (.bucket x) <;>
      cases mergedSeries now e.key (.bucket x) <;> simp
  case bucket =>
    intro e he x v hv
    obtain ⟨b, c, hb, hc, -, -, hh⟩ := record_series f before now h e he
    rw [hh, HistogramTotals.increments_bucket, hb, hc, Option.bind_eq_some_iff] at hv
    obtain ⟨x, hx, hv⟩ := hv
    obtain ⟨y, hy, rfl⟩ := Option.map_eq_some_iff.mp hv
    rw [contributed_growth, hx, hy]
    exact ZeroNeutral.same_zero_add _ (growth_finite _ _)
  case sum =>
    intro e he
    obtain ⟨b, c, hb, hc, -, -, hh⟩ := record_series f before now h e he
    rw [hh, HistogramTotals.increments_eq, contributed_growth, ← hb, ← hc]
    exact same_growth b.sum c.sum
  case count =>
    intro e he
    obtain ⟨b, c, hb, hc, -, -, hh⟩ := record_series f before now h e he
    rw [hh, HistogramTotals.increments_eq, contributed_growth, ← hb, ← hc]
    exact same_growth b.count c.count
  case holds =>
    intro k
    simp only [contributedSeries, List.mem_toFinset]
    exact step_ledger_holds f now k

end ScrapeTelemetry
