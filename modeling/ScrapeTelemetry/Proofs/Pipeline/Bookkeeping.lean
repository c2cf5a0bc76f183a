import ScrapeTelemetry.Proofs.Clock.Seconds
import ScrapeTelemetry.Proofs.Pipeline.Influence
import ScrapeTelemetry.Proofs.Slo.Entries

/-!
# The bookkeeping of a cycle

Whatever a clock shows and whatever window a caller gives, a cycle has a window to divide
by, and its counts nest: every aggregate is backed by a record of its own, and a first
scrape has no record.
-/

set_option autoImplicit false

namespace ScrapeTelemetry
open Scalar

variable {α μ ν κ : Type} [Scalar α]

theorem no_counter_record (current : KeyMap EntityId (μ × α)) :
    CounterLedger.empty.recordsOf current = [] := by
  unfold CounterLedger.recordsOf
  exact List.filterMap_eq_nil_iff.mpr fun _ _ => rfl

theorem no_histogram_record (current : KeyMap EntityId (μ × HistogramTotals α)) :
    HistogramLedger.empty.recordsOf current = [] := by
  unfold HistogramLedger.recordsOf
  exact List.filterMap_eq_nil_iff.mpr fun _ _ => rfl

/-- A histogram counts one record exactly where it has one. -/
theorem histogram_records_counted (f : HistogramLedger α)
    (current : KeyMap EntityId (μ × HistogramTotals α)) :
    (f.stats current).records = (f.recordsOf current).length := by
  rw [stats_total f current OutcomeCounts.records rfl fun _ _ => rfl, HistogramLedger.recordsOf]
  induction current.toList with
  | nil => rfl
  | cons e l ih =>
    rw [List.map_cons, List.sum_cons, ih, List.filterMap_cons, HistogramLedger.entityStats]
    cases f.previous.find? e.1 with
    | none => exact Nat.zero_add _
    | some before =>
      cases hp : HistogramTotals.produces before e.2.2 with
      | false => simp [hp]
      | true => simp [hp, Nat.add_comm]

/-- The records of a cycle are those of its four ledgers. -/
theorem records_counted (l : TrafficLedger α) (samples : List (TrafficSample α)) :
    (l.step samples).2.stats.records =
      (l.step samples).2.ingressCounts.length + (l.step samples).2.ingressTiming.length +
        (l.step samples).2.meshCounts.length + (l.step samples).2.meshTiming.length := by
  have hingress := histogram_records_counted l.ingressTiming
    (mergeHistograms (ingressTimingsOf samples))
  have hmesh := histogram_records_counted l.meshTiming (mergeHistograms (meshTimingsOf samples))
  change _ + (l.ingressTiming.stats _).records + _ + (l.meshTiming.stats _).records = _
  rw [hingress, hmesh]
  rfl

section
variable [Ord κ] [Std.TransOrd κ] [Std.LawfulEqOrd κ]

/-- Keys need records that are placed at them. -/
theorem placed_size (place : μ → Option κ) (placeTiming : ν → Option κ)
    (count : RequestSums α → CounterIncrement μ α → RequestSums α)
    (counts : List (CounterIncrement μ α)) (timings : List (HistogramIncrement ν α)) :
    (sumPlaced place placeTiming count counts timings).size ≤
      counts.countP (fun r => (place r.routing).isSome) +
        timings.countP fun r => (placeTiming r.routing).isSome := by
  have hcounts := KeyMap.size_foldl_accumulateAt
    (fun r : CounterIncrement μ α => place r.routing) (fun _ => RequestSums.zero)
    (fun r t => count t r) counts .empty
  have htimings := KeyMap.size_foldl_accumulateAt
    (fun r : HistogramIncrement ν α => placeTiming r.routing) (fun _ => RequestSums.zero)
    (fun r t => RequestSums.addTiming t r) timings
    (counts.foldl (fun m r => m.accumulateAt (place r.routing) .zero (count · r)) .empty)
  have hempty : (KeyMap.empty : KeyMap κ (RequestSums α)).size = 0 := rfl
  rw [sumPlaced]
  omega

end

/-- No mesh record is both received traffic and a call. -/
theorem mesh_placed_once (r : MeshRouting) (h : r.received?.isSome) : r.called? = none := by
  unfold MeshRouting.received? at h
  unfold MeshRouting.called?
  cases hr : r.direction with
  | inbound => rfl
  | outbound =>
    rw [hr] at h
    exact Bool.noConfusion h

theorem countP_apart {σ : Type} (p q : σ → Bool) (l : List σ) (h : ∀ s, p s → q s = false) :
    l.countP p + l.countP q ≤ l.length := by
  rw [List.length_eq_countP_add_countP p]
  have hle : l.countP q ≤ l.countP fun s => decide ¬p s = true := by
    apply List.countP_mono_left
    intro s _ hq
    rw [decide_eq_true_eq]
    intro hp
    rw [h s hp] at hq
    exact Bool.noConfusion hq
  omega

/-- Every aggregate is backed by a record that counts for no other aggregate. -/
theorem aggregates_backed (d : Increments α) (window : α) :
    (d.aggregates window).length ≤ d.ingressCounts.length + d.ingressTiming.length +
      d.meshCounts.length + d.meshTiming.length := by
  have hlength : (d.aggregates window).length =
      (sumIngress d).size + (sumWorkloads d).size + (sumEdges d).size := by
    simp only [Increments.aggregates, List.length_append, List.length_map]
    rfl
  have hingress : (sumIngress d).size ≤ d.ingressCounts.length + d.ingressTiming.length := by
    rw [sum_ingress_placed]
    refine (placed_size _ _ _ _ _).trans (Nat.add_le_add ?_ ?_) <;> exact List.countP_le_length
  have hservices := placed_size (fun r : ResponseRouting => r.mesh.received?)
    MeshRouting.received? (.countRecord (fun r => r.mesh.statusCode)
      (fun r => r.classification != "success") ResponseRouting.tls fun _ => "")
    d.meshCounts d.meshTiming
  have hedges := placed_size (fun r : ResponseRouting => r.mesh.called?)
    MeshRouting.called? (.countRecord (fun r => r.mesh.statusCode)
      (fun r => isNoSuccess r.mesh.statusCode) ResponseRouting.tls fun _ => "")
    d.meshCounts d.meshTiming
  have hcounts := countP_apart (fun r : CounterIncrement ResponseRouting α =>
    r.routing.mesh.received?.isSome) (fun r => r.routing.mesh.called?.isSome) d.meshCounts
    fun r hr => by rw [mesh_placed_once _ hr]; rfl
  have htimings := countP_apart (fun r : HistogramIncrement MeshRouting α =>
    r.routing.received?.isSome) (fun r => r.routing.called?.isSome) d.meshTiming
    fun r hr => by rw [mesh_placed_once _ hr]; rfl
  rw [← sum_mesh_placed, ← sumWorkloads] at hservices
  rw [← sum_mesh_placed, ← sumEdges] at hedges
  omega

theorem aggregate_windows (d : Increments α) (window : α) :
    ∀ a ∈ d.aggregates window, a.figures.windowSeconds = window := by
  intro a ha
  simp only [Increments.aggregates, List.mem_append, List.mem_map] at ha
  rcases ha with (⟨e, -, rfl⟩ | ⟨e, -, rfl⟩) | ⟨e, -, rfl⟩ <;> rfl

namespace Pipeline

def Usable (w : α) : Prop := isFinite w = true ∧ 0 < w

theorem window_usable (p : Pipeline α) (hinterval : Usable (p.scrapeInterval.seconds : α))
    (t : Instant) (given? : Option α) : Usable (p.windowOf t given?) := by
  unfold windowOf
  simp only
  split
  · split
    · rename_i hw
      rw [Bool.and_eq_true, decide_eq_true_eq] at hw
      exact hw
    · exact hinterval
  · exact hinterval

/-- Settings that pass their check have an interval that is not zero. -/
theorem checked_interval {c : Settings} (h : c.fault? = none) :
    0 < c.timing.scrapeInterval.nanos := by
  unfold Settings.fault? at h
  split at h
  · cases h
  · rename_i hzero
    rw [Duration.isZero, decide_eq_true_eq] at hzero
    exact Nat.pos_of_ne_zero hzero

/-- A pipeline under settings is a new one, with an interval that is not zero. -/
theorem of_settings {c : Settings} {recognizer : Recognizer} {p : Pipeline α}
    (h : ofSettings c recognizer = .ok p) :
    0 < c.timing.scrapeInterval.nanos ∧ ∃ filter,
      p = ofParts recognizer filter c.timing.scrapeInterval c.ringCapacity := by
  unfold ofSettings Settings.checked at h
  cases hfault : c.fault? with
  | some fault =>
    rw [hfault] at h
    cases h
  | none =>
    rw [hfault] at h
    refine ⟨checked_interval hfault, ?_⟩
    cases hfilter : BusinessFilter.ofSettings c.filter with
    | error failure =>
      simp only [bind, Except.bind, hfilter] at h
      cases h
    | ok filter =>
      simp only [bind, Except.bind, hfilter] at h
      exact ⟨filter, (Except.ok.inj h).symm⟩

/-- At every cycle of a run the interval can be divided by. -/
theorem interval_usable {c : Settings} {recognizer : Recognizer} {p : Pipeline Float}
    (h : ofSettings c recognizer = .ok p) (hfits : c.timing.scrapeInterval.wholeSeconds < 2 ^ 64)
    (cycles : List (Collection Float)) :
    Usable ((p.after cycles).scrapeInterval.seconds : Float) := by
  obtain ⟨hinterval, filter, hp⟩ := of_settings h
  rw [(setup_after p cycles).scrapeInterval, hp]
  exact seconds_positive c.timing.scrapeInterval hinterval hfits

structure Booked (report : CycleReport α) : Prop where
  window : Usable report.stats.windowSeconds
  carried : ∀ a ∈ report.aggregates, a.figures.windowSeconds = report.stats.windowSeconds
  dropped : report.stats.dropped ≤ report.stats.recognized
  recognized : report.stats.recognized ≤ report.stats.rawSamples
  backed : report.stats.aggregates ≤ report.stats.records
  aggregates : report.stats.aggregates = report.aggregates.length
  nodes : report.stats.nodes = report.nodes.length

theorem step_booked (p : Pipeline α) (hinterval : Usable (p.scrapeInterval.seconds : α))
    (c : Collection α) : Booked (p.step c).2 := by
  have hrecords := records_counted p.ledger (p.kept c.samples)
  constructor
  · exact window_usable p hinterval c.collectedAt c.window?
  · exact aggregate_windows _ _
  · exact Nat.sub_le _ _
  · exact List.length_filterMap_le _ _
  · exact (aggregates_backed _ _).trans_eq hrecords.symm
  · rfl
  · rfl

/-- A ledger that holds nothing gives no record, so there is nothing to aggregate. -/
theorem first_step_empty (p : Pipeline α) (hnew : p.ledger = .empty) (c : Collection α) :
    (p.step c).2.aggregates = [] := by
  have hbacked := aggregates_backed (p.ledger.step (p.kept c.samples)).2
    (p.windowOf c.collectedAt c.window?)
  have hingress : (p.ledger.step (p.kept c.samples)).2.ingressCounts = [] := by
    rw [hnew]
    exact no_counter_record _
  have htimings : (p.ledger.step (p.kept c.samples)).2.ingressTiming = [] := by
    rw [hnew]
    exact no_histogram_record _
  have hmesh : (p.ledger.step (p.kept c.samples)).2.meshCounts = [] := by
    rw [hnew]
    exact no_counter_record _
  have hlatency : (p.ledger.step (p.kept c.samples)).2.meshTiming = [] := by
    rw [hnew]
    exact no_histogram_record _
  rw [hingress, htimings, hmesh, hlatency] at hbacked
  exact List.eq_nil_of_length_eq_zero (Nat.le_zero.mp hbacked)

/-- In every cycle of a run, whatever the times and the windows, the window is finite and
positive and all aggregates carry it, the counts of samples nest, there are no more
aggregates than records, and the first cycle has none. -/
theorem bookkeeping_of_run (c : Settings) (recognizer : Recognizer) (p : Pipeline Float)
    (h : ofSettings c recognizer = .ok p)
    (hfits : c.timing.scrapeInterval.wholeSeconds < 2 ^ 64)
    (cycles : List (Collection Float)) (n : Fin cycles.length) :
    ∃ report : CycleReport Float, (p.run cycles)[n.val]? = some report ∧
      isFinite report.stats.windowSeconds = true ∧ 0 < report.stats.windowSeconds ∧
      (∀ a ∈ report.aggregates, a.figures.windowSeconds = report.stats.windowSeconds) ∧
      report.stats.dropped ≤ report.stats.recognized ∧
      report.stats.recognized ≤ report.stats.rawSamples ∧
      report.stats.aggregates ≤ report.stats.records ∧
      report.stats.aggregates = report.aggregates.length ∧
      report.stats.nodes = report.nodes.length ∧
      (n.val = 0 → report.aggregates = []) := by
  obtain ⟨-, filter, hp⟩ := of_settings h
  have husable := interval_usable h hfits (cycles.take n)
  have hbooked := step_booked (p.after (cycles.take n)) husable cycles[n]
  refine ⟨_, output_at step p cycles n n.isLt, hbooked.window.1, hbooked.window.2,
    hbooked.carried, hbooked.dropped, hbooked.recognized, hbooked.backed, hbooked.aggregates,
    hbooked.nodes, ?_⟩
  intro hfirst
  apply first_step_empty
  rw [hfirst, hp]
  rfl

def shopSettings : Settings :=
  { filter := { deniedNamespaces := [], adminPorts := [4191], probePaths := [] } }

theorem shop_bookkeeping :
    ofSettings shopSettings {} = .ok shopPipeline ∧
      shopSettings.timing.scrapeInterval.wholeSeconds < 2 ^ 64 ∧
      ∃ report : CycleReport Float, (shopPipeline.run quietCycles)[1]? = some report ∧
        isFinite report.stats.windowSeconds = true ∧ 0 < report.stats.windowSeconds ∧
        (∀ a ∈ report.aggregates, a.figures.windowSeconds = report.stats.windowSeconds) ∧
        report.stats.dropped ≤ report.stats.recognized ∧
        report.stats.recognized ≤ report.stats.rawSamples ∧
        report.stats.aggregates ≤ report.stats.records ∧
        report.stats.aggregates = report.aggregates.length ∧
        report.stats.nodes = report.nodes.length ∧
        (1 = 0 → report.aggregates = []) := by
  have hsettings : ofSettings shopSettings {} = .ok shopPipeline := rfl
  have hinterval : shopSettings.timing.scrapeInterval.wholeSeconds < 2 ^ 64 := by decide
  have hreport := bookkeeping_of_run shopSettings {} shopPipeline hsettings hinterval quietCycles
    ⟨1, by decide⟩
  exact ⟨hsettings, hinterval, hreport⟩

end Pipeline
end ScrapeTelemetry
