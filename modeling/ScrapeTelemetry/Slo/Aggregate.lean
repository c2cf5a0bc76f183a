import ScrapeTelemetry.Increment.TrafficLedger
import ScrapeTelemetry.Text.Affix

/-!
# Service level figures

One cycle's increments fold into figures per ingress service, per workload and
per edge between workloads. Rates divide by the window that the caller gives.
-/

set_option autoImplicit false

namespace ScrapeTelemetry

open Scalar

variable {α : Type} [Scalar α]

def isErrorCode (code : String) : Bool := beginsWith code "4" || beginsWith code "5"

def isNoSuccess (code : String) : Bool := !beginsWith code "2"

structure RequestSums (α : Type) [Scalar α] where
  requests : α
  errors : α
  tls : α
  statusCodes : KeyMap String α
  methods : KeyMap String α
  latency : Histogram α

namespace RequestSums

def zero : RequestSums α := ⟨0, 0, 0, .empty, .empty, .empty⟩

def countRequests (t : RequestSums α) (code : String) (amount : α) (isError : Bool) :
    RequestSums α :=
  { t with
    requests := t.requests + amount
    errors := if isError then t.errors + amount else t.errors
    statusCodes := t.statusCodes.accumulate code 0 (· + amount) }

def countMethod (t : RequestSums α) (method : String) (amount : α) : RequestSums α :=
  if method.isEmpty then t
  else { t with methods := t.methods.accumulate method 0 (· + amount) }

def countTls (t : RequestSums α) (tls : Bool) (amount : α) : RequestSums α :=
  if tls then { t with tls := t.tls + amount } else t

def addLatency (t : RequestSums α) (h : Histogram α) : RequestSums α :=
  { t with latency := t.latency.merge h }

end RequestSums

structure SloFigures (α : Type) where
  requests : α
  errors : α
  requestsPerSecond : α
  successRate : α
  errorRate : α
  latency : LatencyFigures α
  statusCodes : KeyMap String α
  windowSeconds : α

def RequestSums.figures (t : RequestSums α) (windowSeconds : α) : SloFigures α where
  requests := t.requests
  errors := t.errors
  requestsPerSecond := meanPerSecond t.requests windowSeconds
  successRate := shareOf (t.requests - t.errors) t.requests
  errorRate := shareOf t.errors t.requests
  latency := .ofHistogram t.latency
  statusCodes := t.statusCodes
  windowSeconds := windowSeconds

def RequestSums.tlsShare (t : RequestSums α) : α := shareOf t.tls t.requests

inductive Aggregate (α : Type) where
  | ingress (backend : String) (figures : SloFigures α) (methods : KeyMap String α)
  | service (service : Workload) (figures : SloFigures α) (tlsShare : α)
  | edge (edge : Edge) (figures : SloFigures α) (tlsShare : α)

namespace Aggregate

variable {β : Type}

def figures : Aggregate β → SloFigures β
  | ingress _ f _ | service _ f _ | edge _ f _ => f

def seriesName : Aggregate β → String
  | ingress key _ _ => "ingress:" ++ key
  | service key _ _ => key.display
  | edge key _ _ => key.display

end Aggregate

def sumIngress (d : Increments α) : KeyMap String (RequestSums α) :=
  let requests := d.ingressCounts.foldl
    (fun m r =>
      m.accumulate r.routing.backend .zero fun t =>
        (t.countRequests r.routing.code r.amount (isErrorCode r.routing.code)).countMethod
          r.routing.method r.amount)
    .empty
  d.ingressTiming.foldl
    (fun m r => m.accumulate r.routing.backend .zero (·.addLatency r.histogram)) requests

def MeshRouting.received? (r : MeshRouting) : Option Workload :=
  match r.direction with
  | .inbound => some r.workload
  | .outbound => none

def MeshRouting.called? (r : MeshRouting) : Option Edge :=
  match r.direction with
  | .inbound => none
  | .outbound => if r.dst.isUnknown then none else some ⟨r.workload, r.dst⟩

def sumMesh {κ : Type} [Ord κ] [Std.TransOrd κ] [Std.LawfulEqOrd κ]
    (place : MeshRouting → Option κ) (isError : ResponseRouting → Bool)
    (d : Increments α) : KeyMap κ (RequestSums α) :=
  let responses := d.meshCounts.foldl
    (fun m r =>
      match place r.routing.mesh with
      | none => m
      | some k =>
        m.accumulate k .zero fun t =>
          (t.countRequests r.routing.mesh.statusCode r.amount (isError r.routing)).countTls
            r.routing.tls r.amount)
    .empty
  d.meshTiming.foldl
    (fun m r =>
      match place r.routing with
      | none => m
      | some k => m.accumulate k .zero (·.addLatency r.histogram))
    responses

def sumWorkloads (d : Increments α) : KeyMap Workload (RequestSums α) :=
  sumMesh MeshRouting.received? (fun r => r.classification != "success") d

def sumEdges (d : Increments α) : KeyMap Edge (RequestSums α) :=
  sumMesh MeshRouting.called? (fun r => isNoSuccess r.mesh.statusCode) d

def Increments.aggregates (d : Increments α) (windowSeconds : α) : List (Aggregate α) :=
  (sumIngress d).toList.map (fun e =>
      .ingress e.1 (e.2.figures windowSeconds) e.2.methods) ++
    (sumWorkloads d).toList.map (fun e =>
      .service e.1 (e.2.figures windowSeconds) e.2.tlsShare) ++
    (sumEdges d).toList.map (fun e =>
      .edge e.1 (e.2.figures windowSeconds) e.2.tlsShare)

end ScrapeTelemetry
