/-!
# Runs of case mappings

Case tables are short when letters at the same distance from their image share
an entry.
-/

set_option autoImplicit false

namespace ScrapeTelemetry

/-- Characters that a fixed distance takes to their image: from `first` to
`last`, every one or every second of them. -/
structure CaseRun where
  first : Nat
  last : Nat
  step : Nat
  shift : Int

namespace CaseRun

def image? (r : CaseRun) (n : Nat) : Option Nat :=
  if r.first ≤ n && n ≤ r.last && (n - r.first) % r.step = 0 then
    some ((n : Int) + r.shift).toNat
  else none

def source? (r : CaseRun) (n : Nat) : Option Nat :=
  let m := ((n : Int) - r.shift).toNat
  if r.image? m = some n then some m else none

end CaseRun
end ScrapeTelemetry
