import ScrapeTelemetry.Proofs.Node.Memory
import ScrapeTelemetry.Proofs.Pipeline.Bookkeeping
import ScrapeTelemetry.Proofs.Traffic.Milliseconds

/-!
# Finite reports

Bounds that are read off a sample stay finite when they are scaled, and increments are
amounts. So of all that a cycle reports only two numbers can be infinite: the requests of an
aggregate, which are a sum, and the memory of a node that is in use, a difference.
-/

set_option autoImplicit false

namespace ScrapeTelemetry
open Scalar

variable {α μ : Type} [Scalar α]

def SeriesRole.Sound (r : SeriesRole α) : Prop := ∀ b, r = .bucket b → b.Sound

def TrafficSample.Sound : TrafficSample α → Prop
  | .ingressTiming s => s.part.Sound
  | .meshTiming s => s.part.Sound
  | _ => True

theorem series_role_sound {s : Sample α} {scale : α} {p : SeriesRole α × α}
    (h : s.seriesRole? scale = some p) : p.1.Sound := by
  rcases series_role_cases h with ⟨n, -, rfl⟩ | rfl | rfl
  · rintro b ⟨⟩
    exact sound_scaled _ _
  · rintro b ⟨⟩
  · rintro b ⟨⟩

theorem sound_of_role {t : TrafficSample α} (h : ∀ r, t.role? = some r → r.Sound) : t.Sound := by
  cases t with
  | ingressTiming s | meshTiming s => exact h _ rfl
  | ingressCount | meshCount | node => trivial

/-- Whatever the name of a sample chooses, what becomes of it is sound. -/
theorem recognized_sound (n : Recognizer) (s : Sample α) :
    ∀ t, n.recognize s = some t → t.Sound := by
  intro t ht
  apply sound_of_role
  intro r hr
  obtain ⟨-, ⟨hnone, -⟩ | ⟨p, hp, hrole, -⟩⟩ := recognized_becomes ht
  · rw [hnone] at hr
    cases hr
  · rw [hrole] at hr
    cases hr
    exact series_role_sound hp

theorem recorded_amounts (f : CounterLedger Float) (current : KeyMap EntityId (μ × Float)) :
    Amounts (f.recordsOf current) := by
  intro r hr
  obtain ⟨v, -, hd⟩ := (mem_records f current r).mp hr
  obtain ⟨b, -, hle, hamount⟩ := (outcome_increment _ _ _).mp hd
  rw [← hamount]
  exact increment_amount hle

/-- A record has the bounds of its samples only. -/
theorem recorded_bounds [DecidableEq α] (f : HistogramLedger α)
    (samples : List (SeriesContribution μ α)) (h : ∀ s ∈ samples, s.part.Sound) :
    ∀ r ∈ f.recordsOf (mergeHistograms samples), r.histogram.SoundBounds := by
  intro r hr b hb
  obtain ⟨before, now, -, hnow, -, hincrements⟩ := (mem_histogram_records _ _ _).mp hr
  rw [hincrements] at hb
  obtain ⟨v, hv⟩ := Option.isSome_iff_exists.mp ((KeyMap.mem_keys _ _).mp hb)
  rw [HistogramTotals.increments_bucket] at hv
  obtain ⟨_, -, hv⟩ := Option.bind_eq_some_iff.mp hv
  obtain ⟨w, hw, -⟩ := Option.map_eq_some_iff.mp hv
  rw [merged_totals_series samples r.key _ hnow] at hw
  obtain ⟨s, hs, -, hpart⟩ := merged_series_sample samples r.key (.bucket b) (by rw [hw]; rfl)
  exact h s hs b hpart

theorem step_sound (l : TrafficLedger Float) (samples : List (TrafficSample Float))
    (h : ∀ t ∈ samples, t.Sound) : SoundIncrements (l.step samples).2 := by
  constructor
  · exact recorded_amounts _ _
  · apply recorded_bounds
    intro s hs
    obtain ⟨t, ht, hs⟩ := List.mem_filterMap.mp hs
    cases t <;> cases hs
    exact h _ ht
  · exact recorded_amounts _ _
  · apply recorded_bounds
    intro s hs
    obtain ⟨t, ht, hs⟩ := List.mem_filterMap.mp hs
    cases t <;> cases hs
    exact h _ ht

def CycleReport.numbers (report : CycleReport α) : List α :=
  report.aggregates.flatMap Aggregate.numbers ++ report.nodes.flatMap NodeUse.numbers

namespace Pipeline

theorem kept_sound (p : Pipeline α) (samples : List (Sample α)) :
    ∀ t ∈ p.kept samples, t.Sound := by
  intro t ht
  obtain ⟨s, -, hs⟩ := List.mem_filterMap.mp (List.mem_of_mem_filter ht)
  exact recognized_sound p.recognizer s t hs

theorem step_finite_iff (p : Pipeline Float) (hinterval : Usable (p.scrapeInterval.seconds : Float))
    (c : Collection Float) :
    (∀ x ∈ (p.step c).2.numbers, isFinite x = true) ↔
      (∀ a ∈ (p.step c).2.aggregates, isFinite a.figures.requests = true) ∧
        ∀ u ∈ (p.step c).2.nodes, isFinite u.memory.used = true := by
  have hincrements := step_sound p.ledger _ (p.kept_sound c.samples)
  have hwindow := (window_usable p hinterval c.collectedAt c.window?).1
  rw [CycleReport.numbers, List.forall_mem_append, List.forall_mem_flatMap,
    List.forall_mem_flatMap]
  apply and_congr
  · exact forall₂_congr fun a ha => aggregate_finite_iff hincrements hwindow ha
  · exact forall₂_congr fun u hu => p.monitor.use_finite_iff _ _ hu

/-- In every cycle of a run, whatever its samples, all numbers of the report are finite if
and only if the requests of each aggregate and the memory in use of each node are. The
second can only fail for a node of which a reading says that less than no memory is
available. -/
theorem report_finite_iff (c : Settings) (recognizer : Recognizer) (p : Pipeline Float)
    (h : ofSettings c recognizer = .ok p)
    (hfits : c.timing.scrapeInterval.wholeSeconds < 2 ^ 64)
    (cycles : List (Collection Float)) (n : Fin cycles.length) :
    ∃ report : CycleReport Float, (p.run cycles)[n.val]? = some report ∧
      ((∀ x ∈ report.numbers, isFinite x = true) ↔
        (∀ a ∈ report.aggregates, isFinite a.figures.requests = true) ∧
          ∀ u ∈ report.nodes, isFinite u.memory.used = true) ∧
      ∀ u ∈ report.nodes, isFinite u.memory.used = false →
        ∃ r, .node r ∈ p.kept cycles[n].samples ∧
          r.node = u.node ∧ r.series = .memoryAvailable ∧ r.value < 0 := by
  have husable := interval_usable h hfits (cycles.take n)
  refine ⟨_, output_at step p cycles n n.isLt, step_finite_iff _ husable cycles[n], ?_⟩
  intro u hu hused
  rw [← kept_after p (cycles.take n)]
  obtain ⟨r, hr, hreading⟩ := (p.after (cycles.take n)).monitor.negative_available _ _ hu hused
  exact ⟨r, (NodeMonitor.mem_node_readings _ r).mp hr, hreading⟩

def largeScrape (v : Float) : List (Sample Float) :=
  [⟨"traefik_service_requests_total", .counter, .ofList [("service", "api"), ("code", "200")], v⟩,
   ⟨"traefik_service_requests_total", .counter, .ofList [("service", "api"), ("code", "201")], v⟩,
   ⟨"node_memory_MemTotal_bytes", .gauge, .ofList [("node", "n1")], 1.7e308⟩,
   ⟨"node_memory_MemAvailable_bytes", .gauge, .ofList [("node", "n1")], -1.7e308⟩]

def largeCycles : List (Collection Float) :=
  [⟨largeScrape 0, .ofSeconds 0, none⟩, ⟨largeScrape 1.7e308, .ofSeconds 10, none⟩]

theorem large_report_finite_iff :
    ofSettings shopSettings {} = .ok shopPipeline ∧
      shopSettings.timing.scrapeInterval.wholeSeconds < 2 ^ 64 ∧
      ∃ report : CycleReport Float, (shopPipeline.run largeCycles)[1]? = some report ∧
        ((∀ x ∈ report.numbers, isFinite x = true) ↔
          (∀ a ∈ report.aggregates, isFinite a.figures.requests = true) ∧
            ∀ u ∈ report.nodes, isFinite u.memory.used = true) ∧
        ∀ u ∈ report.nodes, isFinite u.memory.used = false →
          ∃ r, .node r ∈ shopPipeline.kept (largeScrape 1.7e308) ∧
            r.node = u.node ∧ r.series = .memoryAvailable ∧ r.value < 0 := by
  have hsettings : ofSettings shopSettings {} = .ok shopPipeline := rfl
  have hinterval : shopSettings.timing.scrapeInterval.wholeSeconds < 2 ^ 64 := by decide
  have hreport := report_finite_iff shopSettings {} shopPipeline hsettings hinterval largeCycles
    ⟨1, by decide⟩
  exact ⟨hsettings, hinterval, hreport⟩

/-- Finite samples can add up to requests that are not finite. -/
theorem large_values_overflow :
    ¬ ∀ (c : Settings) (recognizer : Recognizer) (p : Pipeline Float),
      ofSettings c recognizer = .ok p → ∀ cycles : List (Collection Float),
        (∀ collection ∈ cycles, ∀ s ∈ collection.samples, isFinite s.value = true) →
        ∀ report ∈ p.run cycles,
          (∀ a ∈ report.aggregates, ∀ x ∈ a.numbers, isFinite x = true) ∧
            ∀ u ∈ report.nodes, ∀ x ∈ u.numbers, isFinite x = true := by
  intro h
  have hsamples : ∀ collection ∈ largeCycles, ∀ s ∈ collection.samples,
      isFinite s.value = true := by
    decide +kernel
  have hrun : ((shopPipeline.run largeCycles).any fun report =>
      report.aggregates.any fun a => a.numbers.any fun x => !isFinite x) = true := by
    decide +kernel
  simp only [List.any_eq_true, Bool.not_eq_true'] at hrun
  obtain ⟨report, hreport, a, ha, x, hx, hinfinite⟩ := hrun
  obtain ⟨haggregates, -⟩ :=
    h shopSettings {} shopPipeline rfl largeCycles hsamples report hreport
  rw [haggregates a ha x hx] at hinfinite
  exact Bool.noConfusion hinfinite

end Pipeline
end ScrapeTelemetry
