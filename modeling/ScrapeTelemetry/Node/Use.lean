import ScrapeTelemetry.Clock.Instant
import ScrapeTelemetry.Counter
import ScrapeTelemetry.KeyMap
import ScrapeTelemetry.Traffic.Sample

/-!
# Node utilisation

The counters of a node are summed over its processors and devices. Two scrapes
in a row give its utilisation between them; one alone gives its memory only.
-/

set_option autoImplicit false

namespace ScrapeTelemetry

open Scalar

structure NodeTotals (α : Type) where
  cpuTotal : α
  cpuIdle : α
  memoryTotal : Option α
  memoryAvailable : Option α
  diskRead : α
  diskWritten : α
  networkReceived : α
  networkTransmitted : α

structure MemoryUse (α : Type) where
  share : α
  used : α
  total : α

structure NodeUse (α : Type) where
  node : String
  timestamp : Instant
  cpuShare : α
  memory : MemoryUse α
  diskReadRate : α
  diskWriteRate : α
  networkReceiveRate : α
  networkTransmitRate : α

variable {α : Type} [Scalar α]

def isLoopback (device : String) : Bool := device == "lo"

namespace NodeTotals

def zero : NodeTotals α := ⟨0, 0, none, none, 0, 0, 0, 0⟩

def add (c : NodeTotals α) (series : NodeQuantity) (v : α) : NodeTotals α :=
  match series with
  | .cpuSeconds _ mode =>
    { c with
      cpuTotal := c.cpuTotal + v
      cpuIdle := if mode = "idle" then c.cpuIdle + v else c.cpuIdle }
  | .memoryTotal => { c with memoryTotal := some v }
  | .memoryAvailable => { c with memoryAvailable := some v }
  | .diskReadBytes _ => { c with diskRead := c.diskRead + v }
  | .diskWrittenBytes _ => { c with diskWritten := c.diskWritten + v }
  | .networkReceiveBytes device =>
    if isLoopback device then c else { c with networkReceived := c.networkReceived + v }
  | .networkTransmitBytes device =>
    if isLoopback device then c else { c with networkTransmitted := c.networkTransmitted + v }

def memory (c : NodeTotals α) : MemoryUse α :=
  match c.memoryTotal, c.memoryAvailable with
  | some total, some available =>
    if 0 < total then
      let used := larger (total - available) 0
      ⟨shareOf used total, used, total⟩
    else ⟨0, 0, larger total 0⟩
  | some total, none => ⟨0, 0, larger total 0⟩
  | none, _ => ⟨0, 0, 0⟩

def cpuShare (before now : NodeTotals α) : α :=
  let total := increase now.cpuTotal before.cpuTotal
  let idle := smaller (increase now.cpuIdle before.cpuIdle) total
  shareOf (total - idle) total

end NodeTotals

def NodeUse.between (node : String) (timestamp : Instant)
    (before? : Option (NodeTotals α × Instant)) (now : NodeTotals α) : NodeUse α :=
  match before? with
  | none => ⟨node, timestamp, 0, now.memory, 0, 0, 0, 0⟩
  | some (before, at_) =>
    let elapsed : α := at_.secondsTo timestamp
    { node := node
      timestamp := timestamp
      cpuShare := before.cpuShare now
      memory := now.memory
      diskReadRate := ratePerSecond now.diskRead before.diskRead elapsed
      diskWriteRate := ratePerSecond now.diskWritten before.diskWritten elapsed
      networkReceiveRate := ratePerSecond now.networkReceived before.networkReceived elapsed
      networkTransmitRate :=
        ratePerSecond now.networkTransmitted before.networkTransmitted elapsed }

def nodeReadingsOf (samples : List (TrafficSample α)) : List (NodeReading α) :=
  samples.filterMap fun
    | .node s => some s
    | _ => none

/-- Remembers the counters of the nodes of the last scrape. -/
structure NodeMonitor (α : Type) where
  previous : KeyMap String (NodeTotals α × Instant)

namespace NodeMonitor

def empty : NodeMonitor α := ⟨.empty⟩

def nodeCount (m : NodeMonitor α) : Nat := m.previous.size

def mergeCounters (samples : List (NodeReading α)) : KeyMap String (NodeTotals α) :=
  (samples.filter fun s => isFinite s.value).foldl
    (fun m s => m.accumulate s.node .zero (·.add s.series s.value)) .empty

def step (m : NodeMonitor α) (samples : List (NodeReading α)) (collectedAt : Instant) :
    NodeMonitor α × List (NodeUse α) :=
  let current := mergeCounters samples
  (⟨current.mapValues fun _ c => (c, collectedAt)⟩,
   current.toList.map fun e => .between e.1 collectedAt (m.previous.find? e.1) e.2)

end NodeMonitor
end ScrapeTelemetry
