import ScrapeTelemetry.Proofs.Pipeline.Run

/-!
# What reports depend on

A pipeline hands its next cycle the counters and the time of the last scrape and nothing
older, and of a scrape it reads only the samples it keeps. Two runs that agree on these
give the same reports, whatever else came in.
-/

set_option autoImplicit false

namespace ScrapeTelemetry

variable {α : Type} [Scalar α]

theorem TrafficLedger.step_forgets (l l' : TrafficLedger α) (samples : List (TrafficSample α)) :
    (l.step samples).1 = (l'.step samples).1 := rfl

theorem NodeMonitor.step_forgets (m m' : NodeMonitor α) (samples : List (NodeReading α))
    (t : Instant) : (m.step samples t).1 = (m'.step samples t).1 := rfl

namespace Pipeline

structure SameSetup (p q : Pipeline α) : Prop where
  recognizer : p.recognizer = q.recognizer
  filter : p.filter = q.filter
  scrapeInterval : p.scrapeInterval = q.scrapeInterval

structure SameMemory (p q : Pipeline α) : Prop extends SameSetup p q where
  ledger : p.ledger = q.ledger
  monitor : p.monitor = q.monitor
  lastCycle : p.lastCycle = q.lastCycle

variable {p q : Pipeline α}

theorem setup_after (p : Pipeline α) (cycles : List (Collection α)) :
    SameSetup (p.after cycles) p := by
  induction cycles generalizing p with
  | nil => exact ⟨rfl, rfl, rfl⟩
  | cons c more ih =>
    obtain ⟨hrecognizer, hfilter, hinterval⟩ := ih (p.step c).1
    exact ⟨hrecognizer, hfilter, hinterval⟩

theorem SameSetup.symm (h : SameSetup p q) : SameSetup q p :=
  ⟨h.recognizer.symm, h.filter.symm, h.scrapeInterval.symm⟩

theorem SameSetup.trans {r : Pipeline α} (h : SameSetup p q) (h' : SameSetup q r) :
    SameSetup p r :=
  ⟨h.recognizer.trans h'.recognizer, h.filter.trans h'.filter,
    h.scrapeInterval.trans h'.scrapeInterval⟩

theorem SameSetup.kept (h : SameSetup p q) : p.kept = q.kept := by
  funext samples
  rw [Pipeline.kept, Pipeline.kept, h.recognizer, h.filter]

/-- One scrape that both take makes their memories the same. -/
theorem SameSetup.step (h : SameSetup p q) (c : Collection α) :
    SameMemory (p.step c).1 (q.step c).1 := by
  have hkept := congrFun h.kept c.samples
  constructor
  · exact ⟨h.recognizer, h.filter, h.scrapeInterval⟩
  · change (p.ledger.step (p.kept c.samples)).1 = (q.ledger.step (q.kept c.samples)).1
    rw [hkept]
    exact TrafficLedger.step_forgets p.ledger q.ledger _
  · change (p.monitor.step (nodeReadingsOf (p.kept c.samples)) c.collectedAt).1 =
      (q.monitor.step (nodeReadingsOf (q.kept c.samples)) c.collectedAt).1
    rw [hkept]
    exact NodeMonitor.step_forgets p.monitor q.monitor _ _
  · rfl

theorem SameMemory.report (h : SameMemory p q) (c : Collection α) :
    (p.step c).2 = (q.step c).2 := by
  obtain ⟨⟨hrecognizer, hfilter, hinterval⟩, hledger, hmonitor, hlast⟩ := h
  cases p
  cases q
  subst hrecognizer hfilter hinterval hledger hmonitor hlast
  rfl

/-- The report after two scrapes is decided by these two, whatever came before them and at
whatever times. -/
theorem last_report_of_two (recognizer : Recognizer) (filter : BusinessFilter)
    (interval : Duration) (capacity : ℕ) (history history' : List (Collection α))
    (a b : Collection α) :
    let start : Pipeline α := .ofParts recognizer filter interval capacity
    ∃ report, (start.run (history ++ [a, b])).getLast? = some report ∧
      (start.run (history' ++ [a, b])).getLast? = some report := by
  intro start
  have hsetup : SameSetup (start.after history) (start.after history') :=
    (setup_after start history).trans (setup_after start history').symm
  have hreport := (hsetup.step a).report b
  refine ⟨(((start.after history).step a).1.step b).2, ?_, ?_⟩
  · rw [run, outputs_append, List.getLast?_append]
    rfl
  · rw [hreport, run, outputs_append, List.getLast?_append]
    rfl

def ignores (p : Pipeline α) (s : Sample α) : Bool :=
  !(p.recognizer.recognize s).any p.filter.admits

theorem SameSetup.ignores (h : SameSetup p q) : p.ignores = q.ignores := by
  funext s
  rw [Pipeline.ignores, Pipeline.ignores, h.recognizer, h.filter]

theorem kept_cons (p : Pipeline α) (s : Sample α) (l : List (Sample α)) :
    p.kept (s :: l) = p.kept [s] ++ p.kept l := by
  have happend : s :: l = [s] ++ l := rfl
  rw [happend, kept, List.filterMap_append]
  exact List.filter_append _ _

theorem kept_ignored (p : Pipeline α) (s : Sample α) (h : p.ignores s) : p.kept [s] = [] := by
  unfold ignores at h
  cases hs : p.recognizer.recognize s with
  | none => simp [kept, hs]
  | some t =>
    rw [hs, Option.any_some, Bool.not_eq_true'] at h
    simp [kept, hs, h]

end Pipeline

/-- The second scrape is the first one with noise put anywhere into it. -/
inductive WithNoise (noise : Sample α → Bool) : List (Sample α) → List (Sample α) → Prop where
  | done : WithNoise noise [] []
  | sample (s : Sample α) {l l' : List (Sample α)} :
    WithNoise noise l l' → WithNoise noise (s :: l) (s :: l')
  | noise (s : Sample α) {l l' : List (Sample α)} :
    noise s → WithNoise noise l l' → WithNoise noise l (s :: l')

structure NoisyCycle (noise : Sample α → Bool) (c d : Collection α) : Prop where
  collectedAt : c.collectedAt = d.collectedAt
  window : c.window? = d.window?
  samples : WithNoise noise c.samples d.samples

def SameFindings (r r' : CycleReport α) : Prop :=
  r' = { r with
    stats := { r.stats with
      rawSamples := r'.stats.rawSamples
      recognized := r'.stats.recognized
      dropped := r'.stats.dropped } }

namespace Pipeline

variable (p : Pipeline α)

theorem kept_with_noise {l l' : List (Sample α)} (h : WithNoise p.ignores l l') :
    p.kept l = p.kept l' := by
  induction h with
  | done => rfl
  | sample s _ ih => rw [kept_cons, ih, ← kept_cons]
  | noise s hs _ ih => rw [kept_cons p s, kept_ignored p s hs, ih, List.nil_append]

theorem step_with_noise {c d : Collection α} (h : NoisyCycle p.ignores c d) :
    (p.step c).1 = (p.step d).1 ∧ SameFindings (p.step c).2 (p.step d).2 := by
  obtain ⟨samples, time, window?⟩ := c
  obtain ⟨samples', time', window'?⟩ := d
  obtain ⟨rfl, rfl, hsamples⟩ := h
  have hkept : p.filter.keep (p.recognizer.recognizeAll samples) =
      p.filter.keep (p.recognizer.recognizeAll samples') := kept_with_noise p hsamples
  simp only [SameFindings, step, cycle, hkept, and_self]

theorem run_with_noise {cycles noisy : List (Collection α)}
    (h : List.Forall₂ (NoisyCycle p.ignores) cycles noisy) :
    p.after cycles = p.after noisy ∧ List.Forall₂ SameFindings (p.run cycles) (p.run noisy) := by
  have hstep : ∀ s t c d, (s = t ∧ SameSetup s p) → NoisyCycle p.ignores c d →
      ((s.step c).1 = (t.step d).1 ∧ SameSetup (s.step c).1 p) ∧
        SameFindings (s.step c).2 (t.step d).2 := by
    rintro s _ c d ⟨rfl, hs⟩ hcd
    rw [← hs.ignores] at hcd
    obtain ⟨hnext, hreport⟩ := step_with_noise s hcd
    exact ⟨⟨hnext, (setup_after s [c]).trans hs⟩, hreport⟩
  obtain ⟨hstate, hreports⟩ := runs_related step (fun s t => s = t ∧ SameSetup s p)
    (NoisyCycle p.ignores) SameFindings hstep h p p ⟨rfl, setup_after p []⟩
  exact ⟨hstate.1, hreports⟩

/-- Samples that are ignored change nothing in any report but how many there were, and
nothing in the series, at any point of a run. -/
theorem noise_leaves_no_trace (cycles noisy : List (Collection α))
    (h : List.Forall₂ (NoisyCycle p.ignores) cycles noisy) :
    List.Forall₂ SameFindings (p.run cycles) (p.run noisy) ∧
      ∀ n now, (p.after (cycles.take n)).store.nodeSeries now =
          (p.after (noisy.take n)).store.nodeSeries now ∧
        (p.after (cycles.take n)).store.trafficSeries now =
          (p.after (noisy.take n)).store.trafficSeries now := by
  refine ⟨(run_with_noise p h).2, ?_⟩
  intro n now
  rw [(run_with_noise p (List.forall₂_take n h)).1]
  exact ⟨rfl, rfl⟩

def shopPipeline : Pipeline Float := .ofParts {} ⟨[], [4191], [], true⟩ (.ofSeconds 15) 60

def webAnswers (address : String) (v : Float) : Sample Float :=
  ⟨"response_total", .counter, .ofList [("direction", "inbound"), ("namespace", "shop"),
    ("pod", "web-1"), ("status_code", "200"), ("target_addr", address)], v⟩

def unknownMetric : Sample Float := ⟨"up", .gauge, .empty, 1⟩

def quietCycles : List (Collection Float) :=
  [⟨[webAnswers "10.0.0.7:8080" 100], .ofSeconds 0, none⟩,
   ⟨[webAnswers "10.0.0.7:8080" 130], .ofSeconds 15, none⟩]

def loudCycles : List (Collection Float) :=
  [⟨[webAnswers "10.0.0.7:4191" 7, webAnswers "10.0.0.7:8080" 100], .ofSeconds 0, none⟩,
   ⟨[webAnswers "10.0.0.7:8080" 130, unknownMetric], .ofSeconds 15, none⟩]

theorem admin_answers_leave_no_trace :
    List.Forall₂ (NoisyCycle shopPipeline.ignores) quietCycles loudCycles ∧
      List.Forall₂ SameFindings (shopPipeline.run quietCycles) (shopPipeline.run loudCycles) ∧
      ∀ n now, (shopPipeline.after (quietCycles.take n)).store.nodeSeries now =
          (shopPipeline.after (loudCycles.take n)).store.nodeSeries now ∧
        (shopPipeline.after (quietCycles.take n)).store.trafficSeries now =
          (shopPipeline.after (loudCycles.take n)).store.trafficSeries now := by
  have hadmin : shopPipeline.ignores (webAnswers "10.0.0.7:4191" 7) := by decide +kernel
  have hunknown : shopPipeline.ignores unknownMetric := by decide +kernel
  have hnoisy : List.Forall₂ (NoisyCycle shopPipeline.ignores) quietCycles loudCycles :=
    .cons ⟨rfl, rfl, .noise _ hadmin (.sample _ .done)⟩
      (.cons ⟨rfl, rfl, .sample _ (.noise _ hunknown .done)⟩ .nil)
  exact ⟨hnoisy, noise_leaves_no_trace shopPipeline quietCycles loudCycles hnoisy⟩

end Pipeline
end ScrapeTelemetry
