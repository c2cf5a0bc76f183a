import ScrapeTelemetry.Node.Use
import ScrapeTelemetry.Series.MinuteRing
import ScrapeTelemetry.Slo.Aggregate

/-!
# Stored time series

A store keeps one point a minute and entity, for as many minutes as its rings have
slots. Nodes and aggregates have series of their own.
-/

set_option autoImplicit false

namespace ScrapeTelemetry

structure UsePoint (α : Type) where
  cpuShare : α
  memoryShare : α
  diskReadRate : α
  diskWriteRate : α
  networkReceiveRate : α
  networkTransmitRate : α

structure TrafficPoint (α : Type) where
  requestsPerSecond : α
  successRate : α
  errorRate : α
  p50 : α
  p95 : α
  p99 : α

variable {α β : Type}

def NodeUse.point (m : NodeUse α) : UsePoint α :=
  ⟨m.cpuShare, m.memory.share, m.diskReadRate, m.diskWriteRate, m.networkReceiveRate,
   m.networkTransmitRate⟩

def Aggregate.point (a : Aggregate α) : TrafficPoint α :=
  let f := a.figures
  let p := f.latency.percentiles
  ⟨f.requestsPerSecond, f.successRate, f.errorRate, p.p50, p.p95, p.p99⟩

structure TimeSeries (β : Type) where
  name : String
  points : List (Instant × β)

abbrev MinuteRings (β : Type) := KeyMap String (MinuteRing β)

namespace MinuteRings

def write (m : MinuteRings β) (capacity : Nat) (name : String) (minute : Int) (point : β) :
    MinuteRings β :=
  m.accumulate name (MinuteRing.ofCapacity capacity) fun r => r.write minute point

def window (m : MinuteRings β) (now : Int) : List (TimeSeries β) :=
  m.toList.filterMap fun e =>
    match e.2.window now with
    | [] => none
    | points => some ⟨e.1, points.map fun p => (Instant.ofMinute p.1, p.2)⟩

end MinuteRings

structure SeriesStore (α : Type) where
  capacity : Nat
  nodes : MinuteRings (UsePoint α)
  slos : MinuteRings (TrafficPoint α)

namespace SeriesStore

def defaultCapacity : Nat := 60

def ofCapacity (capacity : Nat) : SeriesStore α := ⟨max capacity 1, .empty, .empty⟩

def record (c : SeriesStore α) (nodes : List (NodeUse α)) (slos : List (Aggregate α))
    (timestamp : Instant) : SeriesStore α :=
  { c with
    nodes := nodes.foldl
      (fun m n => MinuteRings.write m c.capacity n.node timestamp.minute n.point) c.nodes
    slos := slos.foldl
      (fun m s => MinuteRings.write m c.capacity s.seriesName timestamp.minute s.point) c.slos }

def nodeSeries (c : SeriesStore α) (now : Instant) : List (TimeSeries (UsePoint α)) :=
  MinuteRings.window c.nodes now.minute

def trafficSeries (c : SeriesStore α) (now : Instant) : List (TimeSeries (TrafficPoint α)) :=
  MinuteRings.window c.slos now.minute

def ringCount (c : SeriesStore α) : Nat := c.nodes.size + c.slos.size

end SeriesStore
end ScrapeTelemetry
