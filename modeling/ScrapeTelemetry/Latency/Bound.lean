import ScrapeTelemetry.Number.Scalar

/-!
# Bucket bounds

The upper bound of a histogram bucket is a finite number or one of the values
beyond all numbers. Bounds are totally ordered, so that they can be the keys of
a map: minus infinity, the finite bounds, infinity, and last what is no number.
-/

set_option autoImplicit false

namespace ScrapeTelemetry

inductive UpperBound (α : Type) where
  | negInf
  | finite (value : α)
  | posInf
  | undefined
  deriving DecidableEq, Repr

namespace UpperBound

variable {α : Type}

def rank : UpperBound α → Nat
  | negInf => 0
  | finite _ => 1
  | posInf => 2
  | undefined => 3

def isFinite : UpperBound α → Bool
  | finite _ => true
  | _ => false

def finite? : UpperBound α → Option α
  | finite a => some a
  | _ => none

variable [Scalar α]

def order : UpperBound α → UpperBound α → Ordering
  | finite a, finite b => Scalar.order a b
  | a, b => compare a.rank b.rank

instance : Ord (UpperBound α) := ⟨order⟩

instance : Std.TransOrd (UpperBound α) where
  eq_swap {a b} := by
    cases a <;> cases b <;>
      first
        | rfl
        | exact Scalar.order_swap _ _
  isLE_trans {a b c} hab hbc := by
    cases a <;> cases b <;> cases c <;>
      first
        | exact Scalar.order_isLE_trans hab hbc
        | rfl
        | exact Bool.noConfusion (show false = true from hab)
        | exact Bool.noConfusion (show false = true from hbc)

instance : Std.LawfulEqOrd (UpperBound α) where
  compare_self {a} := by
    cases a <;>
      first
        | rfl
        | exact Scalar.order_self _
  eq_of_compare {a b} h := by
    cases a <;> cases b <;>
      first
        | rfl
        | exact congrArg _ (Scalar.eq_of_order h)
        | exact Ordering.noConfusion (show Ordering.lt = .eq from h)
        | exact Ordering.noConfusion (show Ordering.gt = .eq from h)

def ofScalar (a : α) : UpperBound α :=
  if Scalar.isFinite a then finite a
  else if Scalar.isNaN a then undefined
  else if a < Scalar.ofNat 0 then negInf
  else posInf

def ofNumeral : Numeral → UpperBound α
  | .finite d => ofScalar (Scalar.ofDecimal d)
  | .infinite true => negInf
  | .infinite false => posInf
  | .undefined => undefined

def scale (factor : α) : UpperBound α → UpperBound α
  | finite a => ofScalar (a * factor)
  | other => other

end UpperBound

namespace UpperBound

def toFloat : UpperBound Float → Float
  | negInf => -1.0 / 0.0
  | finite x => x
  | posInf => 1.0 / 0.0
  | undefined => 0.0 / 0.0

end UpperBound
end ScrapeTelemetry
