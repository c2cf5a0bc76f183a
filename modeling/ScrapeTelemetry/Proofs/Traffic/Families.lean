import Mathlib
import ScrapeTelemetry.Number.Scalar
import ScrapeTelemetry.Traffic.Sample

/-!
# The counters and histograms of a scrape

Every sample of traffic is of one counter, or of one series of one histogram, at the ingress
or in the mesh. What a scrape says of them is read off its samples here, one by one and in
their order: the samples of an entity add up, and a series without a sample has no value.
-/

set_option autoImplicit false

namespace ScrapeTelemetry
open Scalar

variable {α : Type}

inductive TrafficSide where
  | ingress
  | mesh
  deriving DecidableEq, Repr

namespace TrafficSample

def value : TrafficSample α → α
  | .ingressCount s => s.value
  | .ingressTiming s => s.value
  | .meshCount s => s.value
  | .meshTiming s => s.value
  | .node s => s.value

def counter? : TrafficSide → TrafficSample α → Option EntityId
  | .ingress, .ingressCount s => some s.entityId
  | .mesh, .meshCount s => some s.entityId
  | _, _ => none

def series? : TrafficSide → TrafficSample α → Option (EntityId × SeriesRole α)
  | .ingress, .ingressTiming s => some (s.entityId, s.part)
  | .mesh, .meshTiming s => some (s.entityId, s.part)
  | _, _ => none

end TrafficSample

structure Counters (α : Type) where
  keys : Finset EntityId
  value : EntityId → α

structure Histograms (α : Type) where
  keys : Finset EntityId
  series : EntityId → SeriesRole α → Option α

variable [Scalar α]

def countersOf (side : TrafficSide) (samples : List (TrafficSample α)) : Counters α where
  keys := (samples.filterMap fun s => s.counter? side).toFinset
  value k := ((samples.filter fun s => s.counter? side = some k).map TrafficSample.value).foldl
    (· + ·) 0

def histogramsOf [DecidableEq α] (side : TrafficSide) (samples : List (TrafficSample α)) :
    Histograms α where
  keys := (samples.filterMap fun s => (s.series? side).map Prod.fst).toFinset
  series k r :=
    match (samples.filter fun s => s.series? side = some (k, r)).map TrafficSample.value with
    | [] => none
    | v :: vs => some ((v :: vs).foldl (· + ·) 0)

end ScrapeTelemetry
