import ScrapeTelemetry.Proofs.Latency.Merge
import ScrapeTelemetry.Proofs.Number.Amounts
import ScrapeTelemetry.Proofs.Number.Signs
import ScrapeTelemetry.Proofs.Number.Zero
import ScrapeTelemetry.Proofs.Slo.Entries

/-!
# Finite figures

Every ratio is zero where it has no finite value, and a percentile lies at a bound or is
guarded too. Sums are not guarded: an aggregate shows only finite numbers exactly where
its requests are finite, since its other sums leave records out.
-/

set_option autoImplicit false

namespace ScrapeTelemetry
open Scalar

variable {α μ ν : Type} [Scalar α]

theorem larger_finite {a b : α} (ha : isFinite a = true) (hb : isFinite b = true) :
    isFinite (larger a b) = true := by
  unfold larger
  split
  · exact hb
  · split
    · exact hb
    · exact ha

theorem head_finite {lower : α} {bounds : List α} (hlower : isFinite lower = true)
    (hbounds : ∀ b ∈ bounds, isFinite b = true) : isFinite (bounds.headD lower) = true := by
  cases bounds with
  | nil => exact hlower
  | cons b bounds => exact hbounds b List.mem_cons_self

section
variable [ZeroNeutral α]

theorem share_finite (part total : α) : isFinite (shareOf part total) = true := by
  unfold shareOf
  split
  · exact ZeroNeutral.zero_finite
  · exact finite_zero_unless _

theorem mean_per_second_finite (value seconds : α) :
    isFinite (meanPerSecond value seconds) = true := by
  unfold meanPerSecond
  split
  · exact ZeroNeutral.zero_finite
  · exact finite_zero_unless _

theorem rate_finite (current previous seconds : α) :
    isFinite (ratePerSecond current previous seconds) = true := by
  unfold ratePerSecond
  split
  · exact ZeroNeutral.zero_finite
  · exact finite_zero_unless _

theorem Histogram.mean_finite (h : Histogram α) : isFinite h.mean = true := by
  unfold Histogram.mean
  split
  · exact ZeroNeutral.zero_finite
  · exact finite_zero_unless _

theorem percentile_from_finite {last : α} (hlast : isFinite last = true) (target : α)
    (bounds : List α) (counts : List ℕ) (lower before : α) (hlower : isFinite lower = true)
    (hbounds : ∀ b ∈ bounds, isFinite b = true) :
    isFinite (percentileFrom last target lower before bounds counts) = true := by
  induction counts generalizing bounds lower before with
  | nil => exact hlast
  | cons c counts ih =>
    unfold percentileFrom
    simp only
    split
    · exact ih _ _ _ (head_finite hlower hbounds) fun b hb => hbounds b (List.mem_of_mem_tail hb)
    · split
      · exact hlast
      · split
        · exact hlower
        · exact finite_zero_unless _

theorem percentile_finite (bounds : List α) (counts : List ℕ) (p : α)
    (hbounds : ∀ b ∈ bounds, isFinite b = true) : isFinite (percentile bounds counts p) = true := by
  have hlast : isFinite (bounds.getLastD 0) = true := by
    have hmem : bounds.getLastD 0 ∈ 0 :: bounds := List.getLastD_mem_cons
    rcases List.mem_cons.mp hmem with h | h
    · rw [h]
      exact ZeroNeutral.zero_finite
    · exact hbounds _ h
  unfold percentile
  simp only
  split
  · exact ZeroNeutral.zero_finite
  · split
    · exact hlast
    · exact percentile_from_finite hlast _ bounds _ 0 0 ZeroNeutral.zero_finite hbounds

end

def UpperBound.Sound (b : UpperBound α) : Prop :=
  ∀ x, b = .finite x → Scalar.isFinite x = true

theorem sound_of_scalar (a : α) : (UpperBound.ofScalar a).Sound := by
  intro x hx
  unfold UpperBound.ofScalar at hx
  split at hx
  · cases hx
    assumption
  · split at hx
    · cases hx
    · split at hx <;> cases hx

theorem sound_scaled (factor : α) (b : UpperBound α) : (b.scale factor).Sound := by
  cases b with
  | finite a => exact sound_of_scalar (a * factor)
  | negInf | posInf | undefined =>
    intro x hx
    cases hx

namespace Histogram

def SoundBounds (h : Histogram α) : Prop := ∀ b ∈ h.bounds, b.Sound

theorem sound_merged [DecidableEq α] (timings : List (HistogramIncrement ν α))
    (h : ∀ r ∈ timings, r.histogram.SoundBounds) : (merged timings).SoundBounds := by
  have hfold (l : List (HistogramIncrement ν α)) (hl : ∀ r ∈ l, r.histogram.SoundBounds)
      (start : Histogram α) (hstart : start.SoundBounds) :
      ((l.map HistogramIncrement.histogram).foldl merge start).SoundBounds := by
    induction l generalizing start with
    | nil => exact hstart
    | cons r l ih =>
      apply ih fun s hs => hl s (List.mem_cons_of_mem r hs)
      intro b hb
      rcases (merge_bounds start r.histogram b).mp hb with hb | hb
      · exact hstart b hb
      · exact hl r List.mem_cons_self b hb
  apply hfold timings h
  intro b hb
  cases hb

theorem spread_finite (h : Histogram α) (hsound : h.SoundBounds) :
    ∀ x ∈ h.spread.bounds, isFinite x = true := by
  intro x hx
  obtain ⟨_, hbucket, rfl⟩ := List.mem_map.mp hx
  obtain ⟨e, he, hfinite⟩ := List.mem_filterMap.mp hbucket
  obtain ⟨z, hz, rfl⟩ := Option.map_eq_some_iff.mp hfinite
  apply hsound e.1 (List.mem_map.mpr ⟨e, he, rfl⟩)
  cases hb : e.1 with
  | finite a =>
    rw [hb] at hz
    cases hz
    rfl
  | negInf | posInf | undefined =>
    rw [hb] at hz
    cases hz

end Histogram

def LatencyFigures.numbers (l : LatencyFigures α) : List α :=
  [l.mean, l.percentiles.p50, l.percentiles.p90, l.percentiles.p95, l.percentiles.p99]

def SloFigures.numbers (f : SloFigures α) : List α :=
  [f.requests, f.errors, f.requestsPerSecond, f.successRate, f.errorRate] ++
    f.latency.numbers ++ f.statusCodes.toList.map Prod.snd ++ [f.windowSeconds]

def Aggregate.numbers : Aggregate α → List α
  | .ingress _ f methods => f.numbers ++ methods.toList.map Prod.snd
  | .service _ f tls | .edge _ f tls => f.numbers ++ [tls]

theorem latency_finite [ZeroNeutral α] (h : Histogram α) (hsound : h.SoundBounds) :
    ∀ x ∈ (LatencyFigures.ofHistogram h).numbers, isFinite x = true := by
  have hpercentile := fun p => percentile_finite h.spread.bounds h.spread.counts p
    (h.spread_finite hsound)
  simp only [LatencyFigures.numbers, List.forall_mem_cons]
  exact ⟨h.mean_finite, hpercentile _, hpercentile _, hpercentile _, hpercentile _,
    List.forall_mem_nil _⟩

def Amounts (records : List (CounterIncrement μ Float)) : Prop :=
  ∀ r ∈ records, ∃ n, Amount r.amount n

theorem Amounts.filter {records : List (CounterIncrement μ Float)} (h : Amounts records)
    (chosen : CounterIncrement μ Float → Bool) : Amounts (records.filter chosen) :=
  fun r hr => h r (List.mem_of_mem_filter hr)

theorem summed_part {records : List (CounterIncrement μ Float)} (h : Amounts records)
    (chosen : CounterIncrement μ Float → Bool) (hfinite : isFinite (summed records) = true) :
    isFinite (summed (records.filter chosen)) = true := by
  apply part_of_finite_sum (List.filter_sublist.map CounterIncrement.amount) ?_ hfinite
  intro y hy
  obtain ⟨r, hr, rfl⟩ := List.mem_map.mp hy
  exact h r hr

theorem shown_part {records : List (CounterIncrement μ Float)} (h : Amounts records)
    (chosen : CounterIncrement μ Float → Bool) (hfinite : isFinite (summed records) = true)
    {v : Float} (hv : shown (records.filter chosen) = some v) : isFinite v = true := by
  unfold shown at hv
  split at hv
  · cases hv
  · rw [← Option.some.inj hv]
    exact summed_part h chosen hfinite

theorem figures_finite_iff {code : μ → String} {isError : μ → Bool}
    {counts : List (CounterIncrement μ Float)} {timings : List (HistogramIncrement ν Float)}
    {t : RequestSums Float} {window : Float}
    (hf : FiguresOf code isError counts timings (t.figures window)) (hcounts : Amounts counts)
    (htimings : ∀ r ∈ timings, r.histogram.SoundBounds) (hwindow : isFinite window = true) :
    (∀ x ∈ (t.figures window).numbers, isFinite x = true) ↔
      isFinite (t.figures window).requests = true := by
  constructor
  · exact fun h => h _ List.mem_cons_self
  · intro hrequests
    have hsum := hrequests
    rw [hf.requests] at hsum
    have herrors : isFinite (t.figures window).errors = true := by
      rw [hf.errors]
      exact summed_part hcounts _ hsum
    have hlatency : ∀ x ∈ (t.figures window).latency.numbers, isFinite x = true := by
      rw [hf.latency]
      exact latency_finite _ (Histogram.sound_merged timings htimings)
    have hcodes : ∀ x ∈ (t.figures window).statusCodes.toList.map Prod.snd, isFinite x = true := by
      intro x hx
      obtain ⟨⟨c, v⟩, he, rfl⟩ := List.mem_map.mp hx
      have hv := (KeyMap.mem_toList _ c v).mp he
      rw [hf.statusCodes] at hv
      exact shown_part hcounts _ hsum hv
    simp only [SloFigures.numbers, List.forall_mem_append, List.forall_mem_cons]
    exact ⟨⟨⟨⟨hrequests, herrors, mean_per_second_finite _ _, share_finite _ _,
      share_finite _ _, List.forall_mem_nil _⟩, hlatency⟩, hcodes⟩, hwindow,
      List.forall_mem_nil _⟩

structure SoundIncrements (d : Increments Float) : Prop where
  ingressCounts : Amounts d.ingressCounts
  ingressTiming : ∀ r ∈ d.ingressTiming, r.histogram.SoundBounds
  meshCounts : Amounts d.meshCounts
  meshTiming : ∀ r ∈ d.meshTiming, r.histogram.SoundBounds

theorem ingress_finite_iff {d : Increments Float} {window : Float} (hd : SoundIncrements d)
    (hwindow : isFinite window = true) {e : String × RequestSums Float}
    (he : e ∈ (sumIngress d).toList) :
    (∀ x ∈ (Aggregate.ingress e.1 (e.2.figures window) e.2.methods).numbers,
      isFinite x = true) ↔ isFinite (e.2.figures window).requests = true := by
  have hentry := (ingress_entries d window).each _ (List.mem_map_of_mem he)
  have hcounts := hd.ingressCounts.filter fun r => r.routing.backend = e.1
  have hfigures := figures_finite_iff hentry.figures hcounts
    (fun r hr => hd.ingressTiming r (List.mem_of_mem_filter hr)) hwindow
  rw [← hfigures, Aggregate.numbers, List.forall_mem_append, and_iff_left_iff_imp]
  intro h x hx
  have hsum := hfigures.mp h
  rw [hentry.figures.requests] at hsum
  obtain ⟨⟨m, v⟩, hm, rfl⟩ := List.mem_map.mp hx
  have hv := (KeyMap.mem_toList _ m v).mp hm
  rw [hentry.methods] at hv
  split at hv
  · cases hv
  · exact shown_part hcounts _ hsum hv

theorem mesh_finite_iff {κ : Type} [Ord κ] [Std.TransOrd κ] [Std.LawfulEqOrd κ] [DecidableEq κ]
    {place : MeshRouting → Option κ} {isError : ResponseRouting → Bool} {d : Increments Float}
    {window : Float} (hd : SoundIncrements d) (hwindow : isFinite window = true)
    {e : κ × RequestSums Float} (he : e ∈ (sumMesh place isError d).toList) :
    (∀ x ∈ (e.2.figures window).numbers ++ [e.2.tlsShare], isFinite x = true) ↔
      isFinite (e.2.figures window).requests = true := by
  have hentry := (mesh_entries place isError d window).each _ (List.mem_map_of_mem he)
  have hfigures := figures_finite_iff hentry.figures
    (hd.meshCounts.filter fun r => place r.routing.mesh = some e.1)
    (fun r hr => hd.meshTiming r (List.mem_of_mem_filter hr)) hwindow
  rw [← hfigures, List.forall_mem_append, and_iff_left_iff_imp]
  intro _ x hx
  rw [List.mem_singleton.mp hx]
  exact share_finite _ _

/-- An aggregate shows only finite numbers if and only if its requests are finite. -/
theorem aggregate_finite_iff {d : Increments Float} {window : Float} (hd : SoundIncrements d)
    (hwindow : isFinite window = true) {a : Aggregate Float} (ha : a ∈ d.aggregates window) :
    (∀ x ∈ a.numbers, isFinite x = true) ↔ isFinite a.figures.requests = true := by
  simp only [Increments.aggregates, List.mem_append, List.mem_map] at ha
  rcases ha with (⟨e, he, rfl⟩ | ⟨e, he, rfl⟩) | ⟨e, he, rfl⟩
  · exact ingress_finite_iff hd hwindow he
  · exact mesh_finite_iff hd hwindow he
  · exact mesh_finite_iff hd hwindow he

end ScrapeTelemetry
