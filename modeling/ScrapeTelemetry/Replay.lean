import ScrapeTelemetry.Exposition.Scrape
import ScrapeTelemetry.Files
import ScrapeTelemetry.Pipeline

/-!
# Replaying recorded scrapes

Files are fed to a new pipeline as scrapes that lie one interval apart, the last of
them at a given time. The time moves on after every file, also after the last; a
time that no clock shows ends the replay.
-/

set_option autoImplicit false

namespace ScrapeTelemetry

structure ReplayedFile where
  file : String
  collectedAt : Instant
  skippedLines : Nat
  stats : CycleSummary Float

structure ReplayRecord where
  cycles : List ReplayedFile
  aggregates : List (Aggregate Float)
  nodes : List (NodeUse Float)
  nodeSeries : List (TimeSeries (UsePoint Float))
  trafficSeries : List (TimeSeries (TrafficPoint Float))

inductive ReplayStop where
  | failed (fault : Failure)
  | offCalendar
  deriving DecidableEq, Repr

namespace Replay

def intervalLimit : Nat := (Nat.pow 2 63 - 1) * 1000000

/-- The number of intervals from the first of `n` files to the last, which is counted in
32 bits, one of them for the sign. -/
def intervalsBetween (n : Nat) : Int := Int.bmod (n - 1 : Nat) (Nat.pow 2 32)

structure Progress where
  pipeline : Pipeline Float
  next : Instant
  cycles : List ReplayedFile
  last : Option (CycleReport Float)

def later (t : Instant) (nanos : Int) : Except ReplayStop Instant :=
  match t.plus? nanos with
  | some u => .ok u
  | none => .error .offCalendar

def Progress.feed (p : Progress) (interval : Duration) (files : Files) (file : String) :
    Except ReplayStop Progress :=
  match (files file).read with
  | .error reason => .error (.failed (.access reason))
  | .ok text => do
    let batch := Scrape.read text
    let (pipeline, output) := p.pipeline.collect batch.samples p.next
    let next ← later p.next interval.nanos
    return {
      pipeline := pipeline
      next := next
      cycles := p.cycles ++ [⟨file, p.next, batch.skipped, output.stats⟩]
      last := some output }

def Progress.feedAll (p : Progress) (interval : Duration) (files : Files) :
    List String → Except ReplayStop Progress
  | [] => .ok p
  | file :: rest => do
    let p ← p.feed interval files file
    p.feedAll interval files rest

def Progress.report (p : Progress) (stop : Instant) : ReplayRecord where
  cycles := p.cycles
  aggregates := p.last.elim [] CycleReport.aggregates
  nodes := p.last.elim [] CycleReport.nodes
  nodeSeries := p.pipeline.store.nodeSeries stop
  trafficSeries := p.pipeline.store.trafficSeries stop

end Replay

open Replay

def replay (config : Settings) (files : Files) (paths : List String) (node : Option String)
    (stop : Instant) : Except ReplayStop ReplayRecord := do
  let pipeline ← match Pipeline.ofSettings config ⟨node⟩ with
    | .ok e => .ok e
    | .error f => .error (.failed f)
  let interval := config.timing.scrapeInterval
  if intervalLimit < interval.nanos then .error (.failed (.settings .intervalOutOfRange))
  let start ← later stop (-(intervalsBetween paths.length * interval.nanos))
  let progress ← (Progress.mk pipeline start [] none).feedAll interval files paths
  return progress.report stop

end ScrapeTelemetry
