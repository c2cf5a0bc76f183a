import ScrapeTelemetry.Series.Store
import ScrapeTelemetry.Traffic.Business
import ScrapeTelemetry.Traffic.Recognizer

/-!
# The pipeline

One scrape is one cycle: recognize its samples, drop what is no business traffic,
take the increments, aggregate, store. The pipeline holds what the next cycle needs
of this one, and the time series.
-/

set_option autoImplicit false

namespace ScrapeTelemetry

open Scalar

variable {α : Type} [Scalar α]

structure CycleSummary (α : Type) where
  rawSamples : Nat
  recognized : Nat
  dropped : Nat
  firstSeen : Nat
  resets : Nat
  records : Nat
  aggregates : Nat
  nodes : Nat
  windowSeconds : α

structure CycleReport (α : Type) where
  collectedAt : Instant
  aggregates : List (Aggregate α)
  nodes : List (NodeUse α)
  stats : CycleSummary α

structure Pipeline (α : Type) [Scalar α] where
  recognizer : Recognizer
  filter : BusinessFilter
  scrapeInterval : Duration
  ledger : TrafficLedger α
  monitor : NodeMonitor α
  lastCycle : Option Instant
  store : SeriesStore α

namespace Pipeline

def ofParts (recognizer : Recognizer) (filter : BusinessFilter) (scrapeInterval : Duration)
    (ringCapacity : Nat) : Pipeline α where
  recognizer := recognizer
  filter := filter
  scrapeInterval := scrapeInterval
  ledger := .empty
  monitor := .empty
  lastCycle := none
  store := .ofCapacity ringCapacity

def ofSettings (c : Settings) (recognizer : Recognizer) : Except Failure (Pipeline α) := do
  let c ← c.checked
  let filter ← BusinessFilter.ofSettings c.filter
  return .ofParts recognizer filter c.timing.scrapeInterval c.ringCapacity

def standard (recognizer : Recognizer) : Except Failure (Pipeline α) :=
  ofSettings {} recognizer

/-- The window of a cycle: the given one, or the time since the last cycle, if
it is positive and finite; else the scrape interval. -/
def windowOf (p : Pipeline α) (collectedAt : Instant) (given? : Option α) : α :=
  let candidate? :=
    match given? with
    | some w => some w
    | none => p.lastCycle.map fun last => last.secondsTo collectedAt
  match candidate? with
  | some w => if isFinite w && 0 < w then w else p.scrapeInterval.seconds
  | none => p.scrapeInterval.seconds

def cycle (p : Pipeline α) (samples : List (Sample α)) (collectedAt : Instant)
    (window? : Option α) : Pipeline α × CycleReport α :=
  let window := p.windowOf collectedAt window?
  let recognized := p.recognizer.recognizeAll samples
  let kept := p.filter.keep recognized
  let (ledger, increments) := p.ledger.step kept
  let aggregates := increments.aggregates window
  let (monitor, nodes) := p.monitor.step (nodeReadingsOf kept) collectedAt
  ({ p with
     ledger := ledger
     monitor := monitor
     lastCycle := some collectedAt
     store := p.store.record nodes aggregates collectedAt },
   { collectedAt := collectedAt
     aggregates := aggregates
     nodes := nodes
     stats :=
      { rawSamples := samples.length
        recognized := recognized.length
        dropped := recognized.length - kept.length
        firstSeen := increments.stats.firstSeen
        resets := increments.stats.resets
        records := increments.stats.records
        aggregates := aggregates.length
        nodes := nodes.length
        windowSeconds := window } })

def collect (p : Pipeline α) (samples : List (Sample α)) (collectedAt : Instant) :
    Pipeline α × CycleReport α :=
  p.cycle samples collectedAt none

def collectOver (p : Pipeline α) (samples : List (Sample α))
    (collectedAt : Instant) (windowSeconds : α) : Pipeline α × CycleReport α :=
  p.cycle samples collectedAt (some windowSeconds)

end Pipeline
end ScrapeTelemetry
