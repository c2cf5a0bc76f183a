import ScrapeTelemetry.Number.Decimal

/-!
# Numbers that measurements are made of

All rate, increment and percentile arithmetic is written once, over any type with
the operations below. Programs run it on double precision numbers; exact
rationals give the reading in which nothing is rounded and every number is
finite.
-/

set_option autoImplicit false

namespace ScrapeTelemetry

def countLimit : Nat := Nat.pow 2 64 - 1

class Scalar (α : Type) extends Add α, Sub α, Mul α, Div α, Neg α, LT α, LE α where
  decLt : DecidableLT α
  decLe : DecidableLE α
  ofNat : Nat → α
  ofDecimal : Decimal → α
  isFinite : α → Bool
  isNaN : α → Bool
  truncate : α → Nat
  order : α → α → Ordering
  order_trans : Std.TransCmp order
  order_eq : Std.LawfulEqCmp order

namespace Scalar

attribute [reducible, instance] decLt decLe
attribute [instance] order_trans order_eq

variable {α : Type} [Scalar α]

scoped instance (priority := low) instOfNat (n : Nat) : OfNat α n := ⟨ofNat n⟩

scoped instance (priority := low) instOfScientific : OfScientific α where
  ofScientific m negative e :=
    ofDecimal ⟨false, m, if negative then -(e : Int) else e⟩

theorem order_swap (a b : α) : order a b = (order b a).swap := Std.OrientedCmp.eq_swap

theorem order_isLE_trans {a b c : α} (h : (order a b).isLE) (h' : (order b c).isLE) :
    (order a c).isLE :=
  Std.TransCmp.isLE_trans h h'

theorem order_self (a : α) : order a a = .eq := Std.ReflCmp.compare_self

theorem eq_of_order {a b : α} (h : order a b = .eq) : a = b :=
  Std.LawfulEqCmp.eq_of_compare h

def ofInt (n : Int) : α := if n < 0 then -ofNat n.natAbs else ofNat n.natAbs

def same (a b : α) : Bool := a ≤ b && b ≤ a

def larger (a b : α) : α := if isNaN a then b else if a < b then b else a

def smaller (a b : α) : α := if isNaN a then b else if b < a then b else a

def zeroUnlessFinite (a : α) : α := if isFinite a then a else 0

def nearestCount (a : α) : Nat :=
  if isFinite a && 0 < a then
    let whole := truncate a
    min countLimit (if 0.5 ≤ a - ofNat whole then whole + 1 else whole)
  else 0

end Scalar

/-- The bit pattern of a number as an integer that grows with the number: the
negative patterns are mirrored below the positive ones. -/
def floatRank (x : Float) : Int :=
  if x.toBits.toNat < Nat.pow 2 63 then x.toBits.toNat
  else Nat.pow 2 63 - 1 - (x.toBits.toNat : Int)

theorem floatRank_injective {x y : Float} (h : floatRank x = floatRank y) : x = y := by
  have hbits : x.toBits.toNat = y.toBits.toNat := by
    unfold floatRank at h
    split at h <;> split at h <;> omega
  have hmodel : x.toModel.toBits = y.toModel.toBits := UInt64.toNat_inj.1 hbits
  obtain ⟨⟨bx, hx⟩⟩ := x
  obtain ⟨⟨y', hy⟩⟩ := y
  simp only at hmodel
  subst hmodel
  rfl

def floatOrder (x y : Float) : Ordering := compare (floatRank x) (floatRank y)

instance : Std.TransCmp floatOrder where
  eq_swap := Std.OrientedOrd.eq_swap
  isLE_trans := Std.TransOrd.isLE_trans

instance : Std.LawfulEqCmp floatOrder where
  compare_self := Std.ReflOrd.compare_self
  eq_of_compare h := floatRank_injective (Std.LawfulEqOrd.eq_of_compare h)

/-- The nearest double of a decimal. Powers of ten that no double reaches are
cut off first, so that a long exponent costs nothing. -/
def floatOfDecimal (d : Decimal) : Float :=
  let magnitude : Float :=
    if d.coefficient = 0 then 0.0
    else if 400 < d.exponent then 1.0 / 0.0
    else if d.exponent + (Nat.log2 d.coefficient / 3 + 1 : Nat) < -400 then 0.0
    else if d.exponent < 0 then Float.ofScientific d.coefficient true d.exponent.natAbs
    else Float.ofScientific d.coefficient false d.exponent.natAbs
  if d.negative then -magnitude else magnitude

instance : Scalar Float where
  decLt := inferInstance
  decLe := inferInstance
  ofNat := Float.ofNat
  ofDecimal := floatOfDecimal
  isFinite := Float.isFinite
  isNaN := Float.isNaN
  truncate x := x.toUInt64.toNat
  order := floatOrder
  order_trans := inferInstance
  order_eq := inferInstance

def Numeral.toFloat : Numeral → Float
  | .finite d => floatOfDecimal d
  | .infinite negative => if negative then -1.0 / 0.0 else 1.0 / 0.0
  | .undefined => 0.0 / 0.0

def ratOrder (a b : Rat) : Ordering := compareOfLessAndEq a b

instance : Std.TransCmp ratOrder :=
  Std.TransOrd.compareOfLessAndEq_of_antisymm_of_trans_of_total_of_not_le
    (fun {x y : Rat} => @Rat.le_antisymm x y) Rat.le_trans (fun _ _ => Rat.le_total) Rat.not_le

instance : Std.LawfulEqCmp ratOrder where
  compare_self {a} := by simp [ratOrder, compareOfLessAndEq]
  eq_of_compare h := by
    unfold ratOrder compareOfLessAndEq at h
    split at h
    · simp at h
    · split at h
      · assumption
      · simp at h

def ratOfDecimal (d : Decimal) : Rat :=
  let magnitude : Rat :=
    if d.exponent < 0 then (d.coefficient : Rat) / (10 : Rat) ^ d.exponent.natAbs
    else (d.coefficient : Rat) * (10 : Rat) ^ d.exponent.natAbs
  if d.negative then -magnitude else magnitude

instance : Scalar Rat where
  decLt := inferInstance
  decLe := inferInstance
  ofNat n := (n : Rat)
  ofDecimal := ratOfDecimal
  isFinite _ := true
  isNaN _ := false
  truncate x := min countLimit x.floor.toNat
  order := ratOrder
  order_trans := inferInstance
  order_eq := inferInstance

end ScrapeTelemetry
