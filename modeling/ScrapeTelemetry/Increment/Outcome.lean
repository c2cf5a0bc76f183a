import ScrapeTelemetry.Counter
import ScrapeTelemetry.Traffic.Sample

/-!
# What a cycle makes of one series

A series is seen for the first time, has gone backwards, or has an increment.
The counts of these outcomes are the bookkeeping of a cycle.
-/

set_option autoImplicit false

namespace ScrapeTelemetry

open Scalar

variable {α μ : Type}

inductive Outcome (α : Type) where
  | firstSeen
  | reset
  | increment (v : α)

namespace Outcome

def increment? : Outcome α → Option α
  | increment v => some v
  | _ => none

def isFirstSeen : Outcome α → Bool
  | firstSeen => true
  | _ => false

def isReset : Outcome α → Bool
  | reset => true
  | _ => false

def of [Scalar α] (previous : Option α) (current : α) : Outcome α :=
  match previous with
  | none => firstSeen
  | some before =>
    match ScrapeTelemetry.increment? .forget current before with
    | some v => increment v
    | none => reset

end Outcome

structure OutcomeCounts where
  firstSeen : Nat
  resets : Nat
  records : Nat
  deriving DecidableEq, Repr

namespace OutcomeCounts

instance : Add OutcomeCounts :=
  ⟨fun a b => ⟨a.firstSeen + b.firstSeen, a.resets + b.resets, a.records + b.records⟩⟩

def zero : OutcomeCounts := ⟨0, 0, 0⟩

end OutcomeCounts

structure CounterIncrement (μ α : Type) where
  key : EntityId
  routing : μ
  amount : α

end ScrapeTelemetry
