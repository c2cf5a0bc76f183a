import ScrapeTelemetry.Counter
import ScrapeTelemetry.KeyMap

/-!
# Trackers of summed counters

A counter that is already summed over many sources only dips when one of them
restarts, so a tracker may take a smaller value for an increment. Its policy says
so. It counts the dips in either case.
-/

set_option autoImplicit false

namespace ScrapeTelemetry

open Scalar

structure SumTracker (κ α : Type) [Ord κ] where
  policy : OnReset
  previous : KeyMap κ α
  resets : Nat

namespace SumTracker

variable {κ α : Type} [Ord κ]

def ofPolicy (policy : OnReset) : SumTracker κ α := ⟨policy, .empty, 0⟩

def standard : SumTracker κ α := ofPolicy .startOver

variable [Std.TransOrd κ] [Std.LawfulEqOrd κ] [Scalar α]

def sums (batch : List (κ × α)) : KeyMap κ α :=
  (batch.filter fun e => isFinite e.2).foldl
    (fun m e => m.accumulate e.1 0 (· + e.2)) .empty

def step (t : SumTracker κ α) (batch : List (κ × α)) : SumTracker κ α × KeyMap κ α :=
  let merged := sums batch
  let dipped (e : κ × α) : Bool :=
    match t.previous.find? e.1 with
    | some before => e.2 < before
    | none => false
  let increments := merged.filterMap fun k v =>
    (t.previous.find? k).bind fun before => increment? t.policy v before
  ({ t with previous := merged, resets := t.resets + merged.toList.countP dipped }, increments)

end SumTracker
end ScrapeTelemetry
