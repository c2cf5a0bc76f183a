import ScrapeTelemetry.Number.Scalar

/-!
# Cumulative counters

What two observations of a counter say about the time between them. No result
is infinite or undefined, whatever the observations are.
-/

set_option autoImplicit false

namespace ScrapeTelemetry

open Scalar

/-- What a counter that went backwards means. -/
inductive OnReset where
  | forget
  | startOver
  deriving DecidableEq, Repr

def OnReset.word : OnReset → String
  | forget => "skip"
  | startOver => "current_as_delta"

variable {α : Type} [Scalar α]

def ratePerSecond (current previous seconds : α) : α :=
  if seconds ≤ 0 ∨ current < previous then 0
  else zeroUnlessFinite ((current - previous) / seconds)

def increase (current previous : α) : α :=
  if current < previous then 0 else zeroUnlessFinite (current - previous)

def increment? (policy : OnReset) (current previous : α) : Option α :=
  if previous ≤ current then some (zeroUnlessFinite (current - previous))
  else
    match policy with
    | .forget => none
    | .startOver => some (zeroUnlessFinite (larger current 0))

def shareOf (part total : α) : α :=
  if total ≤ 0 then 0 else zeroUnlessFinite (part / total * 100)

def meanPerSecond (value seconds : α) : α :=
  if seconds ≤ 0 then 0 else zeroUnlessFinite (value / seconds)

end ScrapeTelemetry
