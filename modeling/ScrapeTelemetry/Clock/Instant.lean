import ScrapeTelemetry.Clock.Calendar
import ScrapeTelemetry.Clock.Duration

/-!
# Points in time

An instant is a whole number of nanoseconds since 1970-01-01, before which it is
negative. A clock shows the years -262143 to 262142 and no others.
-/

set_option autoImplicit false

namespace ScrapeTelemetry

open Scalar

structure Instant where
  nanos : Int
  deriving DecidableEq, Repr, Inhabited

namespace Instant

def perSecond : Int := 1000000000

def perDay : Int := 86400 * perSecond

instance : Ord Instant := ⟨compareOn nanos⟩

instance : LE Instant := ⟨fun a b => a.nanos ≤ b.nanos⟩

instance : LT Instant := ⟨fun a b => a.nanos < b.nanos⟩

instance (a b : Instant) : Decidable (a ≤ b) := inferInstanceAs (Decidable (a.nanos ≤ b.nanos))

instance (a b : Instant) : Decidable (a < b) := inferInstanceAs (Decidable (a.nanos < b.nanos))

def ofMicros (us : Int) : Instant := ⟨us * 1000⟩

def ofSeconds (s : Int) : Instant := ⟨s * perSecond⟩

def earliest : Instant := ⟨Date.toDays ⟨-262143, 1, 1⟩ * perDay⟩

def latest : Instant := ⟨(Date.toDays ⟨262142, 12, 31⟩ + 1) * perDay - 1⟩

def isShown (t : Instant) : Bool := earliest ≤ t && t ≤ latest

def plus? (t : Instant) (n : Int) : Option Instant :=
  let u : Instant := ⟨t.nanos + n⟩
  if u.isShown then some u else none

def millisTo (t u : Instant) : Int := (u.nanos - t.nanos).tdiv 1000000

def secondsTo {α : Type} [Scalar α] (t u : Instant) : α := ofInt (t.millisTo u) / 1000

def minute (t : Instant) : Int := t.nanos.fdiv (60 * perSecond)

def ofMinute (m : Int) : Instant := ofSeconds (m * 60)

end Instant
end ScrapeTelemetry
