import ScrapeTelemetry.Increment.TrafficLedger
import ScrapeTelemetry.Proofs.Increment.CounterCycle
import ScrapeTelemetry.Proofs.Increment.HistogramCycle
import ScrapeTelemetry.Proofs.Runs

/-!
# Runs of the ledger

After any run the four ledgers hold the last scrape and nothing older, also where a
cycle gave no record. So every cycle is decided by its own scrape and the one before,
whatever came, vanished or was reset earlier.
-/

set_option autoImplicit false

namespace ScrapeTelemetry
open Scalar

variable {α μ : Type} [Scalar α]

omit [Scalar α] in
/-- What a selection keeps of a key are the values of its samples, if it keeps every sample that
has a key, with that key and its value, and no other. -/
theorem selected_values {γ κ : Type} [DecidableEq κ] {select : TrafficSample α → Option γ}
    {key : γ → κ} {value : γ → α} {key? : TrafficSample α → Option κ}
    (hkey : ∀ s, (select s).map key = key? s)
    (hvalue : ∀ s, (select s).map value = (key? s).map fun _ => s.value)
    (samples : List (TrafficSample α)) (k : κ) :
    ((samples.filterMap select).filter fun c => key c = k).map value =
      (samples.filter fun s => key? s = some k).map TrafficSample.value := by
  induction samples with
  | nil => rfl
  | cons s samples ih =>
    cases hs : select s with
    | none =>
      have hother : key? s = none := by rw [← hkey, hs, Option.map_none]
      simpa [hs, hother] using ih
    | some c =>
      have hown : key? s = some (key c) := by rw [← hkey, hs, Option.map_some]
      have hsame : value c = s.value := by simpa [hs, hown] using hvalue s
      by_cases hk : key c = k
      · simpa [hs, hown, hk, hsame] using ih
      · simpa [hs, hown, hk] using ih

theorem contributed_of_selected {side : TrafficSide}
    {select : TrafficSample α → Option (Contribution μ α)}
    (hkey : ∀ s, (select s).map Contribution.key = s.counter? side)
    (hvalue : ∀ s, (select s).map Contribution.value = (s.counter? side).map fun _ => s.value)
    (samples : List (TrafficSample α)) :
    contributed (samples.filterMap select) = countersOf side samples := by
  rw [contributed, countersOf, Counters.mk.injEq]
  constructor
  · rw [keysOf, List.map_filterMap]
    simp only [hkey]
  · funext k
    rw [mergedValue, selected_values hkey hvalue]

theorem contributed_series_of_selected [DecidableEq α] {side : TrafficSide}
    {select : TrafficSample α → Option (SeriesContribution μ α)}
    (hkey : ∀ s, (select s).map (fun c => (c.key, c.part)) = s.series? side)
    (hvalue : ∀ s, (select s).map SeriesContribution.value =
      (s.series? side).map fun _ => s.value) (samples : List (TrafficSample α)) :
    contributedSeries (samples.filterMap select) = histogramsOf side samples := by
  rw [contributedSeries, histogramsOf, Histograms.mk.injEq]
  constructor
  · rw [seriesKeysOf, List.map_filterMap]
    simp only [← hkey, Option.map_map, Function.comp_def]
  · funext k r
    have hvalues := selected_values hkey hvalue samples (k, r)
    simp only [Prod.mk.injEq] at hvalues
    rw [← hvalues]
    rfl

theorem ingress_counters (samples : List (TrafficSample α)) :
    contributed (ingressCountsOf samples) = countersOf .ingress samples := by
  apply contributed_of_selected
  · intro s
    cases s <;> rfl
  · intro s
    cases s <;> rfl

theorem mesh_counters (samples : List (TrafficSample α)) :
    contributed (meshCountsOf samples) = countersOf .mesh samples := by
  apply contributed_of_selected
  · intro s
    cases s <;> rfl
  · intro s
    cases s <;> rfl

theorem ingress_histograms [DecidableEq α] (samples : List (TrafficSample α)) :
    contributedSeries (ingressTimingsOf samples) = histogramsOf .ingress samples := by
  apply contributed_series_of_selected
  · intro s
    cases s <;> rfl
  · intro s
    cases s <;> rfl

theorem mesh_histograms [DecidableEq α] (samples : List (TrafficSample α)) :
    contributedSeries (meshTimingsOf samples) = histogramsOf .mesh samples := by
  apply contributed_series_of_selected
  · intro s
    cases s <;> rfl
  · intro s
    cases s <;> rfl

namespace TrafficLedger

theorem run_outputs (l : TrafficLedger α) (cycles : List (List (TrafficSample α))) :
    l.run cycles = outputs step l cycles := by
  induction cycles generalizing l with
  | nil => rfl
  | cons samples more ih => exact congrArg _ (ih _)

theorem run_at (l : TrafficLedger α) (cycles : List (List (TrafficSample α))) (n : ℕ)
    (h : n < cycles.length) :
    (l.run cycles)[n]? = some ((l.after (cycles.take n)).step cycles[n]).2 := by
  rw [run_outputs]
  exact output_at step l cycles n h

theorem after_next (l : TrafficLedger α) (cycles : List (List (TrafficSample α))) (n : ℕ)
    (h : n < cycles.length) :
    l.after (cycles.take (n + 1)) = ((l.after (cycles.take n)).step cycles[n]).1 :=
  state_next step l cycles n h

/-- Before each cycle the counters are the merged values of the scrape before. -/
theorem counters_held (cycles : List (List (TrafficSample α))) (n : ℕ)
    (h : n ≤ cycles.length) :
    (empty.after (cycles.take n)).ingressCounts.Holds
        (ingressCountsOf (inputBefore [] cycles n)) ∧
      (empty.after (cycles.take n)).meshCounts.Holds
        (meshCountsOf (inputBefore [] cycles n)) := by
  apply last_input_holds step
    (fun (l : TrafficLedger α) samples => l.ingressCounts.Holds (ingressCountsOf samples) ∧
      l.meshCounts.Holds (meshCountsOf samples)) empty []
  · exact ⟨empty_holds, empty_holds⟩
  · intro l samples
    exact ⟨step_holds l.ingressCounts _, step_holds l.meshCounts _⟩
  · exact h

/-- Before each cycle the histograms are the merged series of the scrape before. -/
theorem histograms_held [DecidableEq α] (cycles : List (List (TrafficSample α))) (n : ℕ)
    (h : n ≤ cycles.length) :
    (empty.after (cycles.take n)).ingressTiming.Holds
        (ingressTimingsOf (inputBefore [] cycles n)) ∧
      (empty.after (cycles.take n)).meshTiming.Holds
        (meshTimingsOf (inputBefore [] cycles n)) := by
  apply last_input_holds step
    (fun (l : TrafficLedger α) samples => l.ingressTiming.Holds (ingressTimingsOf samples) ∧
      l.meshTiming.Holds (meshTimingsOf samples)) empty []
  · exact ⟨empty_ledger_holds, empty_ledger_holds⟩
  · intro l samples
    exact ⟨step_ledger_holds l.ingressTiming _, step_ledger_holds l.meshTiming _⟩
  · exact h

/-- Over any run of double precision numbers, every series of a histogram is a counter
of its own. A difference too large for a number counts nothing. -/
theorem histograms_of_run (cycles : List (List (TrafficSample Float)))
    (n : Fin cycles.length) :
    ∃ d, (empty.run cycles)[n.val]? = some d ∧
      HistogramCycle (histogramsOf .ingress (inputBefore [] cycles n))
        (histogramsOf .ingress cycles[n]) d.ingressTiming
        (empty.after (cycles.take (n + 1))).ingressTiming ∧
      HistogramCycle (histogramsOf .mesh (inputBefore [] cycles n))
        (histogramsOf .mesh cycles[n]) d.meshTiming
        (empty.after (cycles.take (n + 1))).meshTiming := by
  obtain ⟨hingress, hmesh⟩ := histograms_held cycles n n.isLt.le
  refine ⟨_, run_at empty cycles n n.isLt, ?_, ?_⟩
  · rw [after_next empty cycles n n.isLt, ← ingress_histograms, ← ingress_histograms]
    exact histogram_step _ _ _ hingress
  · rw [after_next empty cycles n n.isLt, ← mesh_histograms, ← mesh_histograms]
    exact histogram_step _ _ _ hmesh

def webTiming (part : SeriesRole Float) (v : Float) : TrafficSample Float :=
  .meshTiming ⟨⟨.inbound, "web-1", ⟨"shop", "web"⟩, ⟨"shop", "web"⟩, "200", none, none, none⟩,
    part, v⟩

def webTimings (low high sum : Float) : List (TrafficSample Float) :=
  [webTiming (.bucket (.finite 10)) low, webTiming (.bucket (.finite 100)) high,
    webTiming .sum sum]

/-- A bucket that falls keeps its bound, and the sum of the same entity grows. -/
theorem web_timings_run :
    ∃ d, (empty.run [webTimings 5 8 40, webTimings 3 9 55])[1]? = some d ∧
      ∃ e ∈ d.meshTiming, e.histogram.buckets.contains (.finite 10) ∧
        (∀ v, e.histogram.buckets.find? (.finite 10) = some v → same v 0) ∧
        same e.histogram.sum 15 := by
  obtain ⟨d, hd, -, hmesh⟩ :=
    histograms_of_run [webTimings 5 8 40, webTimings 3 9 55] ⟨1, by decide⟩
  obtain ⟨e, he, hkey⟩ := List.mem_map.mp
    ((hmesh.emitted ⟨"shop|web|web-1|inbound|shop|web|200"⟩).mpr
      ⟨by decide +kernel, .sum, by decide +kernel⟩)
  refine ⟨d, hd, e, he, (hmesh.bounds e he _).mpr ?_, ?_, ?_⟩
  · rw [hkey]
    decide +kernel
  · have hbucket := hmesh.bucket e he (.finite 10)
    rw [hkey] at hbucket
    exact hbucket
  · have hsum := hmesh.sum e he
    rw [hkey] at hsum
    exact hsum

/-- The sum of a histogram can grow by more than a number holds; its increment is then
zero and not the difference. -/
theorem sum_increment_not_difference :
    ¬ ∀ (cycles : List (List (TrafficSample Float))) (n : Fin cycles.length)
      (d : Increments Float), (empty.run cycles)[n.val]? = some d →
      ∀ e ∈ d.meshTiming, ∀ b v,
        (histogramsOf .mesh (inputBefore [] cycles n)).series e.key .sum = some b →
        (histogramsOf .mesh cycles[n]).series e.key .sum = some v →
        b ≤ v → same e.histogram.sum (v - b) = true := by
  intro h
  have hrun : ((empty.run [[webTiming .sum (-1e308)], [webTiming .sum 1e308]])[1]?.any fun d =>
      d.meshTiming.any fun e =>
        ((histogramsOf .mesh [webTiming .sum (-1e308)]).series e.key .sum).any fun b =>
          ((histogramsOf .mesh [webTiming .sum 1e308]).series e.key .sum).any fun v =>
            decide (b ≤ v) && !same e.histogram.sum (v - b)) = true := by
    decide +kernel
  simp only [Option.any_eq_true, List.any_eq_true, Bool.and_eq_true, decide_eq_true_eq,
    Bool.not_eq_true'] at hrun
  obtain ⟨d, hd, e, he, b, hb, v, hv, hle, hne⟩ := hrun
  have hsame := h [[webTiming .sum (-1e308)], [webTiming .sum 1e308]] ⟨1, by decide⟩ d hd e he b v hb hv hle
  rw [hsame] at hne
  exact Bool.noConfusion hne

end TrafficLedger
end ScrapeTelemetry
