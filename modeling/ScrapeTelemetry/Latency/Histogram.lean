import ScrapeTelemetry.KeyMap
import ScrapeTelemetry.Latency.Bound
import ScrapeTelemetry.Latency.Percentile

/-!
# Latency histograms

The increments of one or more histograms over one cycle. A bucket counts every
observation at or below its bound, so histograms combine by adding bucket to
bucket, and only then is a percentile taken.
-/

set_option autoImplicit false

namespace ScrapeTelemetry

open Scalar

variable {α : Type} [Scalar α]

structure Histogram (α : Type) [Scalar α] where
  buckets : KeyMap (UpperBound α) α
  sum : α
  count : α

/-- One count per bound, of what lies between it and the bound before, and one
for what lies beyond the last. -/
structure Spread (α : Type) where
  bounds : List α
  counts : List Nat

/-- The counts between cumulative values, from `previous` on, and the largest
value reached. A value below an earlier one counts zero. -/
def countsBetween (previous : α) : List α → List Nat × α
  | [] => ([], previous)
  | v :: values =>
    let (counts, top) := countsBetween (larger previous v) values
    (nearestCount (v - previous) :: counts, top)

namespace Histogram

def empty : Histogram α := ⟨.empty, 0, 0⟩

instance : Inhabited (Histogram α) := ⟨empty⟩

def addToBucket (h : Histogram α) (bound : UpperBound α) (v : α) : Histogram α :=
  { h with buckets := h.buckets.accumulate bound 0 (· + v) }

def addToSum (h : Histogram α) (v : α) : Histogram α := { h with sum := h.sum + v }

def addToCount (h : Histogram α) (v : α) : Histogram α :=
  { h with count := h.count + v }

def merge (h other : Histogram α) : Histogram α :=
  let merged := other.buckets.toList.foldl (fun h e => h.addToBucket e.1 e.2) h
  (merged.addToSum other.sum).addToCount other.count

def isEmpty (h : Histogram α) : Bool := h.buckets.isEmpty && same h.count 0

def overflow? (h : Histogram α) : Option α :=
  (h.buckets.toList.find? fun e => !e.1.isFinite).map Prod.snd

/-- The number of observations: merged histograms may report it as the count,
as the overflow bucket, or as both, so the larger counts. -/
def observations (h : Histogram α) : α :=
  match h.overflow? with
  | some v => larger v h.count
  | none => h.count

def mean (h : Histogram α) : α :=
  if h.observations ≤ 0 then 0 else zeroUnlessFinite (h.sum / h.observations)

def finiteBuckets (h : Histogram α) : List (α × α) :=
  h.buckets.toList.filterMap fun e => e.1.finite?.map fun b => (b, e.2)

def spread (h : Histogram α) : Spread α :=
  let (counts, top) := countsBetween 0 (h.finiteBuckets.map Prod.snd)
  { bounds := h.finiteBuckets.map Prod.fst
    counts := counts ++ [nearestCount (h.observations - top)] }

def percentiles (h : Histogram α) : Percentiles α :=
  .estimate h.spread.bounds h.spread.counts

end Histogram

structure LatencyFigures (α : Type) where
  mean : α
  percentiles : Percentiles α

def LatencyFigures.ofHistogram (h : Histogram α) : LatencyFigures α :=
  ⟨h.mean, h.percentiles⟩

end ScrapeTelemetry
