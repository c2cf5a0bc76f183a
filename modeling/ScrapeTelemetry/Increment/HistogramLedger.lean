import ScrapeTelemetry.Increment.CounterLedger
import ScrapeTelemetry.Latency.Histogram

/-!
# Ledgers of histograms

Every bucket, the sum and the count of a histogram are counters of their own. A
histogram that is known gives a record if one of its series has an increment.
-/

set_option autoImplicit false

namespace ScrapeTelemetry

open Scalar

variable {α μ : Type} [Scalar α]

structure HistogramTotals (α : Type) [Scalar α] where
  buckets : KeyMap (UpperBound α) α
  sum : Option α
  count : Option α

namespace HistogramTotals

def empty : HistogramTotals α := ⟨.empty, none, none⟩

def add (c : HistogramTotals α) (part : SeriesRole α) (v : α) : HistogramTotals α :=
  match part with
  | .bucket b => { c with buckets := c.buckets.accumulate b 0 (· + v) }
  | .sum => { c with sum := some (c.sum.getD 0 + v) }
  | .count => { c with count := some (c.count.getD 0 + v) }

def bucketOutcomes (before now : HistogramTotals α) : List (UpperBound α × Outcome α) :=
  now.buckets.toList.map fun e => (e.1, .of (before.buckets.find? e.1) e.2)

def totalOutcome (before now : Option α) : Option (Outcome α) :=
  match now, before with
  | some v, some b => some (.of (some b) v)
  | _, _ => none

def outcomes (before now : HistogramTotals α) : List (Outcome α) :=
  (bucketOutcomes before now).map Prod.snd ++
    (totalOutcome before.sum now.sum).toList ++ (totalOutcome before.count now.count).toList

def increments (before now : HistogramTotals α) : Histogram α :=
  let withBuckets := (bucketOutcomes before now).foldl
    (fun h e =>
      match e.2 with
      | .firstSeen => h
      | .reset => h.addToBucket e.1 0
      | .increment v => h.addToBucket e.1 v)
    .empty
  let withSum :=
    match (totalOutcome before.sum now.sum).bind Outcome.increment? with
    | some v => withBuckets.addToSum v
    | none => withBuckets
  match (totalOutcome before.count now.count).bind Outcome.increment? with
  | some v => withSum.addToCount v
  | none => withSum

def produces (before now : HistogramTotals α) : Bool :=
  (outcomes before now).any fun o => o.increment?.isSome

end HistogramTotals

structure SeriesContribution (μ α : Type) where
  key : EntityId
  routing : μ
  part : SeriesRole α
  value : α

def mergeHistograms (samples : List (SeriesContribution μ α)) :
    KeyMap EntityId (μ × HistogramTotals α) :=
  samples.foldl
    (fun m s =>
      m.accumulate s.key (s.routing, .empty) fun e => (e.1, e.2.add s.part s.value))
    .empty

structure HistogramIncrement (μ α : Type) [Scalar α] where
  key : EntityId
  routing : μ
  histogram : Histogram α

structure HistogramLedger (α : Type) [Scalar α] where
  previous : KeyMap EntityId (HistogramTotals α)

namespace HistogramLedger

open HistogramTotals

def empty : HistogramLedger α := ⟨.empty⟩

def recordsOf (f : HistogramLedger α) (current : KeyMap EntityId (μ × HistogramTotals α)) :
    List (HistogramIncrement μ α) :=
  current.toList.filterMap fun e =>
    (f.previous.find? e.1).bind fun before =>
      if produces before e.2.2 then some ⟨e.1, e.2.1, increments before e.2.2⟩ else none

def entityStats (f : HistogramLedger α) (key : EntityId) (now : HistogramTotals α) :
    OutcomeCounts :=
  match f.previous.find? key with
  | none => ⟨1, 0, 0⟩
  | some before =>
    { firstSeen := (outcomes before now).countP Outcome.isFirstSeen
      resets := (outcomes before now).countP Outcome.isReset
      records := if produces before now then 1 else 0 }

def stats (f : HistogramLedger α) (current : KeyMap EntityId (μ × HistogramTotals α)) :
    OutcomeCounts :=
  current.toList.foldl (fun s e => s + f.entityStats e.1 e.2.2) .zero

def step (f : HistogramLedger α) (current : KeyMap EntityId (μ × HistogramTotals α)) :
    HistogramLedger α × List (HistogramIncrement μ α) × OutcomeCounts :=
  (⟨current.mapValues fun _ e => e.2⟩, f.recordsOf current, f.stats current)

end HistogramLedger
end ScrapeTelemetry
