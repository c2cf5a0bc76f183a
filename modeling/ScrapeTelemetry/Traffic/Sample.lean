import ScrapeTelemetry.Latency.Bound
import ScrapeTelemetry.Workload

/-!
# Traffic samples

Free label maps end here: a sample of a known family is one of the types below,
whatever labels its vendor uses. Samples of one entity share an identity.
-/

set_option autoImplicit false

namespace ScrapeTelemetry

inductive Direction where
  | inbound
  | outbound
  deriving DecidableEq, Repr

def Direction.word : Direction → String
  | inbound => "inbound"
  | outbound => "outbound"

inductive Vendor where
  | traefik
  | nginx
  | kong
  deriving DecidableEq, Repr

def Vendor.word : Vendor → String
  | traefik => "traefik"
  | nginx => "nginx"
  | kong => "kong"

/-- The key of the finest grain at which a counter increments. -/
structure EntityId where
  text : String
  deriving DecidableEq, Repr, Inhabited

namespace EntityId

instance : Ord EntityId := ⟨compareOn text⟩

instance : Std.TransOrd EntityId :=
  inferInstanceAs (Std.TransCmp (compareOn text))

instance : Std.LawfulEqOrd EntityId where
  compare_self := Std.ReflOrd.compare_self
  eq_of_compare {a b} h := by
    have h : a.text = b.text := Std.LawfulEqOrd.eq_of_compare h
    cases a; cases b; simp_all

def ofParts (parts : List String) : EntityId := ⟨"|".intercalate parts⟩

end EntityId

inductive SeriesRole (α : Type) where
  | bucket (bound : UpperBound α)
  | sum
  | count
  deriving DecidableEq, Repr

structure IngressRoute where
  vendor : Vendor
  backend : String
  ns : Option String
  path : Option String
  code : String
  method : String
  deriving DecidableEq, Repr

def IngressRoute.entityId (r : IngressRoute) : EntityId :=
  .ofParts [r.backend, r.code, r.method]

structure IngressCount (α : Type) where
  route : IngressRoute
  value : α

structure IngressTiming (α : Type) where
  route : IngressRoute
  part : SeriesRole α
  value : α

structure MeshFlow where
  direction : Direction
  pod : String
  workload : Workload
  dst : Workload
  statusCode : String
  targetPort : Option Nat
  authority : Option String
  route : Option String
  deriving DecidableEq, Repr

def MeshFlow.idParts (f : MeshFlow) : List String :=
  [f.workload.ns, f.workload.name, f.pod, f.direction.word, f.dst.ns, f.dst.name,
   f.statusCode]

structure MeshCount (α : Type) where
  flow : MeshFlow
  classification : String
  tls : Bool
  value : α

structure MeshTiming (α : Type) where
  flow : MeshFlow
  part : SeriesRole α
  value : α

inductive NodeQuantity where
  | cpuSeconds (cpu mode : String)
  | memoryTotal
  | memoryAvailable
  | diskReadBytes (device : String)
  | diskWrittenBytes (device : String)
  | networkReceiveBytes (device : String)
  | networkTransmitBytes (device : String)
  deriving DecidableEq, Repr

structure NodeReading (α : Type) where
  node : String
  series : NodeQuantity
  value : α

inductive TrafficSample (α : Type) where
  | ingressCount (sample : IngressCount α)
  | ingressTiming (sample : IngressTiming α)
  | meshCount (sample : MeshCount α)
  | meshTiming (sample : MeshTiming α)
  | node (sample : NodeReading α)

variable {α : Type}

def IngressCount.entityId (s : IngressCount α) : EntityId := s.route.entityId

def IngressTiming.entityId (s : IngressTiming α) : EntityId := s.route.entityId

def MeshCount.entityId (s : MeshCount α) : EntityId :=
  .ofParts (s.flow.idParts ++ [s.classification, if s.tls then "tls" else "plain"])

def MeshCount.isSuccess (s : MeshCount α) : Bool := s.classification == "success"

def MeshTiming.entityId (s : MeshTiming α) : EntityId := .ofParts s.flow.idParts

end ScrapeTelemetry
