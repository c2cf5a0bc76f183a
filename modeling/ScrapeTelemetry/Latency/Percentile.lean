import ScrapeTelemetry.Number.Scalar

/-!
# Percentiles of a bucketed distribution

Only the number of values in each bucket is known. Inside a bucket they count as
spread evenly, and a value beyond the last bound counts as the last bound.
-/

set_option autoImplicit false

namespace ScrapeTelemetry

open Scalar

variable {α : Type} [Scalar α]

def totalCount (counts : List Nat) : Nat :=
  counts.foldl (fun total c => min countLimit (total + c)) 0

def percentileFrom (last target lower before : α) : List α → List Nat → α
  | _, [] => last
  | bounds, c :: counts =>
    let reached := before + ofNat c
    if reached < target then
      percentileFrom last target (bounds.headD lower) reached bounds.tail counts
    else
      match bounds with
      | [] => last
      | upper :: _ =>
        if c = 0 then lower
        else zeroUnlessFinite (lower + (upper - lower) * (target - before) / ofNat c)

def percentile (bounds : List α) (counts : List Nat) (p : α) : α :=
  let buckets := counts.take (bounds.length + 1)
  let total := totalCount buckets
  if total = 0 ∨ isNaN p ∨ p ≤ 0 then 0
  else
    let last := bounds.getLastD 0
    if 1 ≤ p then last
    else percentileFrom last (ofNat total * p) 0 0 bounds buckets

structure Percentiles (α : Type) where
  p50 : α
  p90 : α
  p95 : α
  p99 : α

def Percentiles.estimate (bounds : List α) (counts : List Nat) : Percentiles α where
  p50 := percentile bounds counts 0.50
  p90 := percentile bounds counts 0.90
  p95 := percentile bounds counts 0.95
  p99 := percentile bounds counts 0.99

def bucketIncrements : List Nat → List Nat → List Nat
  | _, [] => []
  | [], latest => latest
  | first :: earliest, last :: latest =>
    (if first ≤ last then last - first else last) :: bucketIncrements earliest latest

end ScrapeTelemetry
