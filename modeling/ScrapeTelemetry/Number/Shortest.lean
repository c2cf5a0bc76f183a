/-!
# The shortest decimal of a double

The digits of a double are the fewest that read back as it. They are looked for
on ever finer decimal grids: the first grid with a point between the middles to
the neighbouring doubles has them, and of two such points the nearer one counts,
or the even one if they are equally near.
-/

set_option autoImplicit false

namespace ScrapeTelemetry
namespace Shortest

/-- The reals that round to a double, in units of `2 ^ exponent`. -/
structure Span where
  low : Nat
  value : Nat
  high : Nat
  exponent : Int
  closed : Bool

/-- The span of a positive finite double. Below a power of two the neighbour is
half as far away. -/
def spanOf (x : Float) : Span :=
  let bits := x.toBits.toNat % Nat.pow 2 63
  let fraction := bits % Nat.pow 2 52
  let power := bits / Nat.pow 2 52
  let m := if power = 0 then fraction else fraction + Nat.pow 2 52
  ⟨4 * m - (if fraction = 0 ∧ 1 < power then 1 else 2), 4 * m, 4 * m + 2,
    (max power 1 : Nat) - 1077, m % 2 = 0⟩

structure Scaled where
  step : Nat
  low : Nat
  value : Nat
  high : Nat
  closed : Bool

def Span.onGrid (s : Span) (e : Int) : Scaled :=
  let factor := Nat.pow 2 s.exponent.toNat * Nat.pow 10 (-e).toNat
  ⟨Nat.pow 10 e.toNat * Nat.pow 2 (-s.exponent).toNat, s.low * factor, s.value * factor,
    s.high * factor, s.closed⟩

def Scaled.has (s : Scaled) (d : Nat) : Bool :=
  let p := d * s.step
  if s.closed then s.low ≤ p && p ≤ s.high else s.low < p && p < s.high

def Scaled.point? (s : Scaled) : Option Nat :=
  let d := s.value / s.step
  match s.has d, s.has (d + 1) with
  | false, false => none
  | true, false => some d
  | false, true => some (d + 1)
  | true, true =>
    let below := s.value - d * s.step
    let above := (d + 1) * s.step - s.value
    if below < above ∨ (below = above ∧ d % 2 = 0) then some d else some (d + 1)

def search (s : Span) : Nat → Int → Nat × Int
  | 0, e => ((s.onGrid e).value / (s.onGrid e).step, e)
  | tries + 1, e =>
    match (s.onGrid e).point? with
    | some d => (d, e)
    | none => search s tries (e - 1)

def digits (x : Float) : Nat × Int :=
  let s := spanOf x
  let bits : Int := Nat.log2 s.value + s.exponent + 1
  search s 20 ((bits * 30103).fdiv 100000 + 1)

end Shortest
end ScrapeTelemetry
