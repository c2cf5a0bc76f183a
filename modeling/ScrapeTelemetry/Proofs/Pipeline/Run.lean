import ScrapeTelemetry.Pipeline
import ScrapeTelemetry.Proofs.Increment.Run

/-!
# Runs of the pipeline

A run is a list of scrapes with their times and windows. Of all that a pipeline
holds, the increments of a cycle depend on its ledger alone, and the ledger is that of
the kept samples.
-/

set_option autoImplicit false

namespace ScrapeTelemetry

structure Collection (α : Type) where
  samples : List (Sample α)
  collectedAt : Instant
  window? : Option α

variable {α : Type} [Scalar α]

namespace Pipeline

def step (p : Pipeline α) (c : Collection α) : Pipeline α × CycleReport α :=
  p.cycle c.samples c.collectedAt c.window?

def run (p : Pipeline α) (cycles : List (Collection α)) : List (CycleReport α) :=
  outputs step p cycles

def after (p : Pipeline α) (cycles : List (Collection α)) : Pipeline α :=
  stateAfter step p cycles

def kept (p : Pipeline α) (samples : List (Sample α)) : List (TrafficSample α) :=
  (samples.filterMap p.recognizer.recognize).filter p.filter.admits

theorem kept_after (p : Pipeline α) (cycles : List (Collection α)) :
    (p.after cycles).kept = p.kept := by
  induction cycles generalizing p with
  | nil => rfl
  | cons c more ih => exact ih (p.step c).1

theorem ledger_after (p : Pipeline α) (cycles : List (Collection α)) :
    (p.after cycles).ledger = p.ledger.after (cycles.map fun c => p.kept c.samples) := by
  induction cycles generalizing p with
  | nil => rfl
  | cons c more ih => exact ih (p.step c).1

/-- Before each cycle of a new pipeline the counters are those of the scrape before. -/
theorem counters_held (p : Pipeline α) (hnew : p.ledger = .empty)
    (cycles : List (Collection α)) (n : ℕ) (h : n ≤ cycles.length) :
    (p.after (cycles.take n)).ledger.ingressCounts.Holds
        (ingressCountsOf (p.kept (inputBefore [] (cycles.map Collection.samples) n))) ∧
      (p.after (cycles.take n)).ledger.meshCounts.Holds
        (meshCountsOf (p.kept (inputBefore [] (cycles.map Collection.samples) n))) := by
  have hheld := TrafficLedger.counters_held
    ((cycles.map Collection.samples).map p.kept) n (by simpa using h)
  have hnone : p.kept [] = [] := rfl
  rw [← hnone, input_before_map, ← List.map_take, ← List.map_take, List.map_map] at hheld
  rw [ledger_after, hnew]
  exact hheld

/-- The report of every cycle of a run, with its aggregates traced to the ledger. -/
theorem report_at (p : Pipeline α) (cycles : List (Collection α)) (n : Fin cycles.length) :
    ∃ report, (p.run cycles)[n.val]? = some report ∧
      report.aggregates =
        ((p.after (cycles.take n)).ledger.step (p.kept cycles[n].samples)).2.aggregates
          report.stats.windowSeconds := by
  refine ⟨_, output_at step p cycles n n.isLt, ?_⟩
  rw [← kept_after p (cycles.take n)]
  rfl

end Pipeline
end ScrapeTelemetry
