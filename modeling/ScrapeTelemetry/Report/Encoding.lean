import ScrapeTelemetry.Clock.DurationText
import ScrapeTelemetry.Clock.Timestamp
import ScrapeTelemetry.Json.Value
import ScrapeTelemetry.Pipeline
import ScrapeTelemetry.Replay
import ScrapeTelemetry.Window.Buckets

/-!
# What reports look like

The JSON form of everything that leaves the program. A number that is not finite
is written as null, an instant as its timestamp and a duration in words.
-/

set_option autoImplicit false

namespace ScrapeTelemetry

def Instant.toJson (t : Instant) : Json := .text t.toText

def Duration.toJson (d : Duration) : Json := .text d.toText

def Json.ofCount (n : Nat) : Json := .integer n

def Json.ofFloats (xs : List Float) : Json := .list (xs.map .ofFloat)

def Json.ofMap (m : KeyMap String Float) : Json :=
  .object (m.toList.map fun e => (e.1, .ofFloat e.2))

def Workload.toJson (k : Workload) : Json :=
  .object [("namespace", .text k.ns), ("name", .text k.name)]

def Edge.toJson (k : Edge) : Json :=
  .object [("src", k.src.toJson), ("dst", k.dst.toJson)]

def LatencyFigures.toJson (l : LatencyFigures Float) : Json :=
  .object
    [("avg_ms", .ofFloat l.mean), ("p50", .ofFloat l.percentiles.p50),
     ("p90", .ofFloat l.percentiles.p90), ("p95", .ofFloat l.percentiles.p95),
     ("p99", .ofFloat l.percentiles.p99)]

def SloFigures.fields (f : SloFigures Float) (errorsName : String)
    (middle last : List (String × Json)) : List (String × Json) :=
  [("requests", .ofFloat f.requests), (errorsName, .ofFloat f.errors),
   ("rps", .ofFloat f.requestsPerSecond), ("success_rate", .ofFloat f.successRate),
   ("error_rate", .ofFloat f.errorRate)] ++ middle ++
  [("latency", f.latency.toJson), ("status_codes", .ofMap f.statusCodes)] ++ last ++
  [("window_seconds", .ofFloat f.windowSeconds)]

def Aggregate.toJson : Aggregate Float → Json
  | .ingress key f methods =>
    .object ([("kind", .text "ingress"), ("service_key", .text key)] ++
      f.fields "errors" [] [("methods", .ofMap methods)])
  | .service key f tls =>
    .object ([("kind", .text "service"), ("service", key.toJson)] ++
      f.fields "failures" [("tls_percent", .ofFloat tls)] [])
  | .edge key f tls =>
    .object ([("kind", .text "edge"), ("edge", key.toJson)] ++
      f.fields "errors" [("tls_percent", .ofFloat tls)] [])

def NodeUse.toJson (m : NodeUse Float) : Json :=
  .object
    [("node", .text m.node), ("timestamp", m.timestamp.toJson),
     ("cpu_percent", .ofFloat m.cpuShare), ("memory_percent", .ofFloat m.memory.share),
     ("memory_used_bytes", .ofFloat m.memory.used),
     ("memory_total_bytes", .ofFloat m.memory.total),
     ("disk_read_bytes_per_sec", .ofFloat m.diskReadRate),
     ("disk_write_bytes_per_sec", .ofFloat m.diskWriteRate),
     ("network_rx_bytes_per_sec", .ofFloat m.networkReceiveRate),
     ("network_tx_bytes_per_sec", .ofFloat m.networkTransmitRate)]

def UsePoint.fields (p : UsePoint Float) : List (String × Json) :=
  [("cpu_percent", .ofFloat p.cpuShare), ("memory_percent", .ofFloat p.memoryShare),
   ("disk_read_bytes_per_sec", .ofFloat p.diskReadRate),
   ("disk_write_bytes_per_sec", .ofFloat p.diskWriteRate),
   ("network_rx_bytes_per_sec", .ofFloat p.networkReceiveRate),
   ("network_tx_bytes_per_sec", .ofFloat p.networkTransmitRate)]

def TrafficPoint.fields (p : TrafficPoint Float) : List (String × Json) :=
  [("rps", .ofFloat p.requestsPerSecond), ("success_rate", .ofFloat p.successRate),
   ("error_rate", .ofFloat p.errorRate), ("p50_ms", .ofFloat p.p50),
   ("p95_ms", .ofFloat p.p95), ("p99_ms", .ofFloat p.p99)]

def TimeSeries.toJson {β : Type} (fields : β → List (String × Json)) (s : TimeSeries β) : Json :=
  .object
    [("name", .text s.name),
     ("points", .list (s.points.map fun p =>
       .object (("timestamp", p.1.toJson) :: fields p.2)))]

def nodeSeriesJson (l : List (TimeSeries (UsePoint Float))) : Json :=
  .list (l.map (TimeSeries.toJson UsePoint.fields))

def sloSeriesJson (l : List (TimeSeries (TrafficPoint Float))) : Json :=
  .list (l.map (TimeSeries.toJson TrafficPoint.fields))

def CycleSummary.toJson (s : CycleSummary Float) : Json :=
  .object
    [("raw_samples", .ofCount s.rawSamples), ("normalized", .ofCount s.recognized),
     ("filtered", .ofCount s.dropped), ("first_seen", .ofCount s.firstSeen),
     ("resets", .ofCount s.resets), ("deltas", .ofCount s.records),
     ("aggregates", .ofCount s.aggregates), ("nodes", .ofCount s.nodes),
     ("window_seconds", .ofFloat s.windowSeconds)]

def instantOrNull (t : Option Instant) : Json := .ofOption (t.map Instant.toJson)

def Snapshot.toJson (s : Snapshot Float) : Json :=
  .object
    [("taken_at", instantOrNull s.takenAt), ("requests", .ofFloat s.requests),
     ("errors", .ofFloat s.errors), ("latency_sum", .ofFloat s.latencySum),
     ("latency_count", .ofFloat s.latencyCount), ("bounds", .ofFloats s.bounds),
     ("buckets", .list (s.buckets.map .ofCount))]

def PeriodSummary.toJson (s : PeriodSummary Float) : Json :=
  .object
    [("start", instantOrNull s.start), ("end", instantOrNull s.stop),
     ("window_seconds", .ofFloat s.windowSeconds), ("requests", .ofFloat s.requests),
     ("errors", .ofFloat s.errors), ("rps", .ofFloat s.requestsPerSecond),
     ("success_rate", .ofFloat s.successRate), ("error_rate", .ofFloat s.errorRate),
     ("latency", s.latency.toJson)]

def WindowRequest.toJson (q : WindowRequest) : Json :=
  .object [("since", q.since.toJson), ("bucket", q.bucket.toJson)]

def ReplayedFile.toJson (c : ReplayedFile) : Json :=
  .object
    [("file", .text c.file), ("collected_at", c.collectedAt.toJson),
     ("skipped_lines", .ofCount c.skippedLines), ("stats", c.stats.toJson)]

def ReplayRecord.toJson (r : ReplayRecord) : Json :=
  .object
    [("cycles", .list (r.cycles.map ReplayedFile.toJson)),
     ("aggregates", .list (r.aggregates.map Aggregate.toJson)),
     ("nodes", .list (r.nodes.map NodeUse.toJson)),
     ("node_series", nodeSeriesJson r.nodeSeries), ("slo_series", sloSeriesJson r.trafficSeries)]

def Settings.toJson (c : Settings) : Json :=
  .object
    [("engine", .object
       [("scrape_interval", c.timing.scrapeInterval.toJson),
        ("default_window", c.timing.defaultWindow.toJson)]),
     ("filter", .object
       [("denied_namespaces", .list (c.filter.deniedNamespaces.map .text)),
        ("admin_ports", .list (c.filter.adminPorts.map .ofCount)),
        ("probe_paths", .list (c.filter.probePaths.map .text)),
        ("drop_internal_ingress_services", .bool c.filter.dropInternalIngress)]),
     ("concentrator", .object [("ring_capacity", .ofCount c.ringCapacity)]),
     ("logging", .object
       [("level", .text c.logging.level.word), ("structured", .bool c.logging.structured)])]

end ScrapeTelemetry
