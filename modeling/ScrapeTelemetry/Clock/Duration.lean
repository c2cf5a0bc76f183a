import ScrapeTelemetry.Number.Scalar

/-!
# Lengths of time

A duration is a whole number of nanoseconds; its seconds fit in 64 bits.
-/

set_option autoImplicit false

namespace ScrapeTelemetry

open Scalar

structure Duration where
  nanos : Nat
  deriving DecidableEq, Repr, Inhabited

namespace Duration

def perSecond : Nat := 1000000000

def zero : Duration := ⟨0⟩

def ofSeconds (s : Nat) : Duration := ⟨s * perSecond⟩

def ofMicros (us : Nat) : Duration := ⟨us * 1000⟩

def isZero (d : Duration) : Bool := d.nanos = 0

def wholeSeconds (d : Duration) : Nat := d.nanos / perSecond

def subNanos (d : Duration) : Nat := d.nanos % perSecond

def millis (d : Duration) : Nat := d.nanos / 1000000

def seconds {α : Type} [Scalar α] (d : Duration) : α :=
  ofNat d.wholeSeconds + ofNat d.subNanos / ofNat perSecond

end Duration
end ScrapeTelemetry
