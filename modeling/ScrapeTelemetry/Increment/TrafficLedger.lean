import ScrapeTelemetry.Increment.HistogramLedger

/-!
# The ledger of all traffic

Turns the cumulative samples of each cycle into increments. Ingress and mesh
traffic have a ledger of counters and a ledger of histograms each; node samples are
not its business.
-/

set_option autoImplicit false

namespace ScrapeTelemetry

open Scalar

variable {α : Type}

structure IngressRouting where
  backend : String
  code : String
  method : String
  deriving DecidableEq, Repr

def IngressRoute.routing (r : IngressRoute) : IngressRouting :=
  ⟨r.backend, r.code, r.method⟩

structure MeshRouting where
  direction : Direction
  workload : Workload
  dst : Workload
  statusCode : String
  deriving DecidableEq, Repr

def MeshFlow.routing (f : MeshFlow) : MeshRouting :=
  ⟨f.direction, f.workload, f.dst, f.statusCode⟩

structure ResponseRouting where
  mesh : MeshRouting
  classification : String
  tls : Bool
  deriving DecidableEq, Repr

def MeshCount.routing (s : MeshCount α) : ResponseRouting :=
  ⟨s.flow.routing, s.classification, s.tls⟩

def ingressCountsOf (samples : List (TrafficSample α)) :
    List (Contribution IngressRouting α) :=
  samples.filterMap fun
    | .ingressCount s => some ⟨s.entityId, s.route.routing, s.value⟩
    | _ => none

def ingressTimingsOf (samples : List (TrafficSample α)) :
    List (SeriesContribution IngressRouting α) :=
  samples.filterMap fun
    | .ingressTiming s => some ⟨s.entityId, s.route.routing, s.part, s.value⟩
    | _ => none

def meshCountsOf (samples : List (TrafficSample α)) :
    List (Contribution ResponseRouting α) :=
  samples.filterMap fun
    | .meshCount s => some ⟨s.entityId, s.routing, s.value⟩
    | _ => none

def meshTimingsOf (samples : List (TrafficSample α)) :
    List (SeriesContribution MeshRouting α) :=
  samples.filterMap fun
    | .meshTiming s => some ⟨s.entityId, s.flow.routing, s.part, s.value⟩
    | _ => none

variable [Scalar α]

structure Increments (α : Type) [Scalar α] where
  ingressCounts : List (CounterIncrement IngressRouting α)
  ingressTiming : List (HistogramIncrement IngressRouting α)
  meshCounts : List (CounterIncrement ResponseRouting α)
  meshTiming : List (HistogramIncrement MeshRouting α)
  stats : OutcomeCounts

def Increments.isEmpty (d : Increments α) : Bool :=
  d.ingressCounts.isEmpty && d.ingressTiming.isEmpty && d.meshCounts.isEmpty &&
    d.meshTiming.isEmpty

structure TrafficLedger (α : Type) [Scalar α] where
  ingressCounts : CounterLedger α
  ingressTiming : HistogramLedger α
  meshCounts : CounterLedger α
  meshTiming : HistogramLedger α

namespace TrafficLedger

def empty : TrafficLedger α := ⟨.empty, .empty, .empty, .empty⟩

def step (l : TrafficLedger α) (samples : List (TrafficSample α)) :
    TrafficLedger α × Increments α :=
  let requests := l.ingressCounts.step (mergeCounters (ingressCountsOf samples))
  let latency := l.ingressTiming.step (mergeHistograms (ingressTimingsOf samples))
  let responses := l.meshCounts.step (mergeCounters (meshCountsOf samples))
  let meshTiming := l.meshTiming.step (mergeHistograms (meshTimingsOf samples))
  (⟨requests.1, latency.1, responses.1, meshTiming.1⟩,
   { ingressCounts := requests.2.1
     ingressTiming := latency.2.1
     meshCounts := responses.2.1
     meshTiming := meshTiming.2.1
     stats := requests.2.2 + latency.2.2 + responses.2.2 + meshTiming.2.2 })

def run (l : TrafficLedger α) : List (List (TrafficSample α)) → List (Increments α)
  | [] => []
  | samples :: more =>
    let (next, increments) := l.step samples
    increments :: next.run more

def after (l : TrafficLedger α) (cycles : List (List (TrafficSample α))) : TrafficLedger α :=
  cycles.foldl (fun l samples => (l.step samples).1) l

end TrafficLedger
end ScrapeTelemetry
