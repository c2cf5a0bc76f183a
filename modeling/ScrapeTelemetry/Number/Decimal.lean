/-!
# Decimal numerals

A numeral is read into its sign, its digits as one whole number and a power of
ten. Nothing is rounded here: which number type a numeral becomes is decided
where it is used.
-/

set_option autoImplicit false

namespace ScrapeTelemetry

/-- The number `±coefficient · 10 ^ exponent`. -/
structure Decimal where
  negative : Bool
  coefficient : Nat
  exponent : Int
  deriving DecidableEq, Repr

inductive Numeral where
  | finite (value : Decimal)
  | infinite (negative : Bool)
  | undefined
  deriving DecidableEq, Repr

namespace Decimal

def digitValue (c : Char) : Nat := c.toNat - '0'.toNat

def natOfDigits (cs : List Char) : Nat :=
  cs.foldl (fun n c => 10 * n + digitValue c) 0

def readExponent? (cs : List Char) : Option Int :=
  let unsigned (ds : List Char) : Option Nat :=
    if ds.isEmpty || !ds.all Char.isDigit then none else some (natOfDigits ds)
  match cs with
  | '-' :: ds => (unsigned ds).map fun n => -(n : Int)
  | '+' :: ds => (unsigned ds).map fun n => (n : Int)
  | ds => (unsigned ds).map fun n => (n : Int)

def readUnsigned? (negative : Bool) (cs : List Char) : Option Decimal :=
  let whole := cs.takeWhile Char.isDigit
  let afterWhole := cs.dropWhile Char.isDigit
  let (fraction, rest) :=
    match afterWhole with
    | '.' :: t => (t.takeWhile Char.isDigit, t.dropWhile Char.isDigit)
    | r => ([], r)
  if whole.isEmpty && fraction.isEmpty then none
  else
    let power : Option Int :=
      match rest with
      | [] => some 0
      | c :: t => if c = 'e' ∨ c = 'E' then readExponent? t else none
    power.map fun e =>
      ⟨negative, natOfDigits (whole ++ fraction), e - fraction.length⟩

end Decimal

namespace Numeral

def read? (cs : List Char) : Option Numeral :=
  let (negative, body) :=
    match cs with
    | '-' :: t => (true, t)
    | '+' :: t => (false, t)
    | t => (false, t)
  let word := String.ofList (body.map Char.toLower)
  if word = "inf" ∨ word = "infinity" then some (.infinite negative)
  else if word = "nan" then some .undefined
  else (Decimal.readUnsigned? negative body).map .finite

end Numeral
end ScrapeTelemetry
