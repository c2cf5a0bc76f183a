import ScrapeTelemetry.Exposition.Sample
import ScrapeTelemetry.Text.Port
import ScrapeTelemetry.Text.Upper
import ScrapeTelemetry.Traffic.Sample

/-!
# From raw samples to known families

The metrics of three ingress vendors become one ingress shape, proxy metrics one
mesh shape, and node metrics one series type. Latency is in milliseconds. A
sample of an unknown name, with a missing label it cannot do without, or with a
value that is not finite, becomes nothing.
-/

set_option autoImplicit false

namespace ScrapeTelemetry

open Scalar

variable {α : Type}

def ownerLabels : List String := ["deployment", "statefulset", "daemonset", "job"]

def calledOwnerLabels : List String :=
  ["dst_deployment", "dst_statefulset", "dst_daemonset", "dst_job", "dst_service"]

def nodeNameLabels : List String := ["node", "kubernetes_node", "nodename"]

def codeLabels : List String := ["code", "status", "status_code"]

namespace Sample

def ingressRoute (s : Sample α) (vendor : Vendor) (backend : String) :
    IngressRoute where
  vendor := vendor
  backend := backend
  ns := s.label? "namespace"
  path := s.label? "path"
  code := (s.anyLabel? codeLabels).getD ""
  method := upperText (s.labelOrEmpty "method")

def nginxBackend? (s : Sample α) : Option String :=
  match s.label? "namespace", s.label? "service" with
  | some ns, some service => some (ns ++ "/" ++ service)
  | none, some service => some service
  | _, none => s.label? "host"

def ingressCount? (s : Sample α) (vendor : Vendor)
    (backend? : Option String) : Option (TrafficSample α) :=
  backend?.bind fun key =>
    if s.kind = .gauge then none
    else some (.ingressCount ⟨s.ingressRoute vendor key, s.value⟩)

def serviceOfAuthority? (authority : String) : Option Workload :=
  match (withoutPort authority).toList.splitOn '.' with
  | [] => none
  | name :: more =>
    if name.isEmpty then none
    else some ⟨String.ofList (more.headD []), String.ofList name⟩

def direction? (s : Sample α) : Option Direction :=
  match s.label? "direction" with
  | some "inbound" => some .inbound
  | some "outbound" => some .outbound
  | _ => none

def calledWorkload (s : Sample α) (workload : Workload) : Workload :=
  match s.anyLabel? calledOwnerLabels with
  | some name => ⟨(s.label? "dst_namespace").getD workload.ns, name⟩
  | none => ((s.label? "authority").bind serviceOfAuthority?).getD .unknown

def meshFlow? (s : Sample α) : Option MeshFlow :=
  s.direction?.map fun direction =>
    let pod := s.labelOrEmpty "pod"
    let workload : Workload :=
      ⟨s.labelOrEmpty "namespace", (s.anyLabel? ownerLabels).getD pod⟩
    { direction := direction
      pod := pod
      workload := workload
      dst :=
        match direction with
        | .inbound => workload
        | .outbound => s.calledWorkload workload
      statusCode := s.labelOrEmpty "status_code"
      targetPort := (s.label? "target_addr").bind portIn?
      authority := s.label? "authority"
      route := s.label? "route_name" }

def classification (s : Sample α) (statusCode : String) : String :=
  match s.label? "classification" with
  | some c => c
  | none => if beginsWith statusCode "5" then "failure" else "success"

def meshCount? (s : Sample α) : Option (TrafficSample α) :=
  s.meshFlow?.map fun flow =>
    .meshCount
      { flow := flow
        classification := s.classification flow.statusCode
        tls := s.label? "tls" = some "true"
        value := s.value }

def nodeQuantity? (s : Sample α) : Option NodeQuantity :=
  match s.name with
  | "node_cpu_seconds_total" =>
    (s.label? "cpu").bind fun cpu => (s.label? "mode").map fun mode => .cpuSeconds cpu mode
  | "node_memory_MemTotal_bytes" => some .memoryTotal
  | "node_memory_MemAvailable_bytes" => some .memoryAvailable
  | "node_disk_read_bytes_total" => (s.label? "device").map .diskReadBytes
  | "node_disk_written_bytes_total" => (s.label? "device").map .diskWrittenBytes
  | "node_network_receive_bytes_total" => (s.label? "device").map .networkReceiveBytes
  | "node_network_transmit_bytes_total" => (s.label? "device").map .networkTransmitBytes
  | _ => none

variable [Scalar α]

/-- The part of a histogram that a sample belongs to, and its value. Bounds and
sums are scaled, counts are not. -/
def seriesRole? (s : Sample α) (scale : α) : Option (SeriesRole α × α) :=
  if endsWith s.name "_bucket" then
    ((s.label? "le").bind fun le => Numeral.read? le.toList).bind fun n =>
      if n = .undefined then none
      else some (.bucket ((UpperBound.ofNumeral n).scale scale), s.value)
  else if endsWith s.name "_sum" then some (.sum, s.value * scale)
  else if endsWith s.name "_count" then some (.count, s.value)
  else none

def ingressTiming? (s : Sample α) (vendor : Vendor)
    (backend? : Option String) (scale : α) : Option (TrafficSample α) :=
  backend?.bind fun key =>
    (s.seriesRole? scale).map fun p =>
      .ingressTiming ⟨s.ingressRoute vendor key, p.1, p.2⟩

def meshTiming? (s : Sample α) : Option (TrafficSample α) :=
  (s.seriesRole? 1).bind fun p =>
    s.meshFlow?.map fun flow => .meshTiming ⟨flow, p.1, p.2⟩

end Sample

/-- Reads raw samples; node samples that name no node belong to the default one. -/
structure Recognizer where
  defaultNode : Option String := none

namespace Recognizer

def nodeOf? (n : Recognizer) (s : Sample α) : Option String :=
  match s.anyLabel? nodeNameLabels with
  | some node => some node
  | none =>
    match s.label? "instance" with
    | some address => some (withoutPort address)
    | none => n.defaultNode

def nodeReading? (n : Recognizer) (s : Sample α) : Option (TrafficSample α) :=
  s.nodeQuantity?.bind fun series =>
    (n.nodeOf? s).map fun node => .node ⟨node, series, s.value⟩

variable [Scalar α]

def recognize (n : Recognizer) (s : Sample α) : Option (TrafficSample α) :=
  if !isFinite s.value then none
  else if s.name = "traefik_service_requests_total" then
    s.ingressCount? .traefik (s.label? "service")
  else if beginsWith s.name "traefik_service_request_duration_seconds_" then
    s.ingressTiming? .traefik (s.label? "service") 1000
  else if s.name = "nginx_ingress_controller_requests" then
    s.ingressCount? .nginx s.nginxBackend?
  else if beginsWith s.name "nginx_ingress_controller_request_duration_seconds_" then
    s.ingressTiming? .nginx s.nginxBackend? 1000
  else if s.name = "kong_http_requests_total" ∨ s.name = "kong_http_status" then
    s.ingressCount? .kong (s.label? "service")
  else if beginsWith s.name "kong_request_latency_ms_" then
    s.ingressTiming? .kong (s.label? "service") 1
  else if beginsWith s.name "kong_latency_" ∧ s.label? "type" = some "request" then
    s.ingressTiming? .kong (s.label? "service") 1
  else if s.name = "response_total" then s.meshCount?
  else if beginsWith s.name "response_latency_ms_" then s.meshTiming?
  else if beginsWith s.name "node_" then n.nodeReading? s
  else none

def recognizeAll (n : Recognizer) (samples : List (Sample α)) :
    List (TrafficSample α) :=
  samples.filterMap n.recognize

end Recognizer
end ScrapeTelemetry
