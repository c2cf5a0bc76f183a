import ScrapeTelemetry.Increment.Outcome
import ScrapeTelemetry.KeyMap

/-!
# Ledgers of counters

Samples of one cycle that share a key are contributions to one counter and add
up. A cycle compares the sums with those of the cycle before and then holds its
own, so an entity that is absent once is forgotten.
-/

set_option autoImplicit false

namespace ScrapeTelemetry

open Scalar

variable {α μ : Type} [Scalar α]

structure Contribution (μ α : Type) where
  key : EntityId
  routing : μ
  value : α

def mergeCounters (samples : List (Contribution μ α)) : KeyMap EntityId (μ × α) :=
  samples.foldl
    (fun m s => m.accumulate s.key (s.routing, 0) fun e => (e.1, e.2 + s.value)) .empty

structure CounterLedger (α : Type) where
  previous : KeyMap EntityId α

namespace CounterLedger

def empty : CounterLedger α := ⟨.empty⟩

def outcome (f : CounterLedger α) (key : EntityId) (value : α) : Outcome α :=
  .of (f.previous.find? key) value

def recordsOf (f : CounterLedger α) (current : KeyMap EntityId (μ × α)) :
    List (CounterIncrement μ α) :=
  current.toList.filterMap fun e =>
    (f.outcome e.1 e.2.2).increment?.map fun d => ⟨e.1, e.2.1, d⟩

def stats (f : CounterLedger α) (current : KeyMap EntityId (μ × α)) : OutcomeCounts where
  firstSeen := current.toList.countP fun e => (f.outcome e.1 e.2.2).isFirstSeen
  resets := current.toList.countP fun e => (f.outcome e.1 e.2.2).isReset
  records := (f.recordsOf current).length

def step (f : CounterLedger α) (current : KeyMap EntityId (μ × α)) :
    CounterLedger α × List (CounterIncrement μ α) × OutcomeCounts :=
  (⟨current.mapValues fun _ e => e.2⟩, f.recordsOf current, f.stats current)

end CounterLedger
end ScrapeTelemetry
