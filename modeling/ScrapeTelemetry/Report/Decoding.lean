import ScrapeTelemetry.Json.Reader
import ScrapeTelemetry.Report.Encoding

/-!
# Reading reports back

Metrics and aggregates are read from the JSON form that reports have. Fields
that are not known are ignored; a known one stands exactly once.
-/

set_option autoImplicit false

namespace ScrapeTelemetry

def Json.single? (j : Json) (name : String) : Option Json :=
  match j.toObject?.map fun l => l.filter fun e => e.1 == name with
  | some [e] => some e.2
  | _ => none

def Json.floatField? (j : Json) (name : String) : Option Float :=
  (j.single? name).bind Json.toFloat?

def Json.textField? (j : Json) (name : String) : Option String :=
  (j.single? name).bind Json.toText?

def Json.mapField? (j : Json) (name : String) : Option (KeyMap String Float) := do
  let fields ← (← j.single? name).toObject?
  let entries ← fields.mapM fun e => e.2.toFloat?.map fun v => (e.1, v)
  return .ofList entries

def Workload.ofJson? (j : Json) : Option Workload := do
  return ⟨← j.textField? "namespace", ← j.textField? "name"⟩

def Edge.ofJson? (j : Json) : Option Edge := do
  return ⟨← (j.single? "src").bind Workload.ofJson?, ← (j.single? "dst").bind Workload.ofJson?⟩

def LatencyFigures.ofJson? (j : Json) : Option (LatencyFigures Float) := do
  let percentiles : Percentiles Float :=
    ⟨← j.floatField? "p50", ← j.floatField? "p90", ← j.floatField? "p95", ← j.floatField? "p99"⟩
  return ⟨← j.floatField? "avg_ms", percentiles⟩

def SloFigures.ofJson? (j : Json) (errorsName : String) : Option (SloFigures Float) := do
  return {
    requests := ← j.floatField? "requests"
    errors := ← j.floatField? errorsName
    requestsPerSecond := ← j.floatField? "rps"
    successRate := ← j.floatField? "success_rate"
    errorRate := ← j.floatField? "error_rate"
    latency := ← (j.single? "latency").bind LatencyFigures.ofJson?
    statusCodes := ← j.mapField? "status_codes"
    windowSeconds := ← j.floatField? "window_seconds" }

def Aggregate.ofJson? (j : Json) : Option (Aggregate Float) :=
  match j.textField? "kind" with
  | some "ingress" => do
    return .ingress (← j.textField? "service_key") (← SloFigures.ofJson? j "errors")
      (← j.mapField? "methods")
  | some "service" => do
    return .service (← (j.single? "service").bind Workload.ofJson?)
      (← SloFigures.ofJson? j "failures") (← j.floatField? "tls_percent")
  | some "edge" => do
    return .edge (← (j.single? "edge").bind Edge.ofJson?)
      (← SloFigures.ofJson? j "errors") (← j.floatField? "tls_percent")
  | _ => none

def nodeMetricsFields : List String :=
  ["node", "timestamp", "cpu_percent", "memory_percent", "memory_used_bytes",
   "memory_total_bytes", "disk_read_bytes_per_sec", "disk_write_bytes_per_sec",
   "network_rx_bytes_per_sec", "network_tx_bytes_per_sec"]

def Json.named (names : List String) (j : Json) : Json :=
  match j with
  | .list items => if items.length = names.length then .object (names.zip items) else j
  | _ => j

def NodeUse.ofJson? (j : Json) : Option (NodeUse Float) := do
  let j := j.named nodeMetricsFields
  return {
    node := ← j.textField? "node"
    timestamp := ← (j.textField? "timestamp").bind Instant.ofText?
    cpuShare := ← j.floatField? "cpu_percent"
    memory :=
      ⟨← j.floatField? "memory_percent", ← j.floatField? "memory_used_bytes",
       ← j.floatField? "memory_total_bytes"⟩
    diskReadRate := ← j.floatField? "disk_read_bytes_per_sec"
    diskWriteRate := ← j.floatField? "disk_write_bytes_per_sec"
    networkReceiveRate := ← j.floatField? "network_rx_bytes_per_sec"
    networkTransmitRate := ← j.floatField? "network_tx_bytes_per_sec" }

def NodeUse.listOfText (text : String) : Except Failure (List (NodeUse Float)) :=
  match (Json.read? text).bind Json.toList? |>.bind fun l => l.mapM NodeUse.ofJson? with
  | some l => .ok l
  | none => .error (.report "the text is no list of node metrics")

end ScrapeTelemetry
