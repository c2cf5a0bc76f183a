import ScrapeTelemetry.Clock.Duration
import ScrapeTelemetry.Number.Decimal
import ScrapeTelemetry.Text.Blank

/-!
# Durations in words

A duration is written as numbers with units, such as `1h 30m`. A month is 30.44
days and a year 365.25 days. Reading is more liberal than writing: units may
repeat, come in any order and have several names, and a number may have a
fraction.
-/

set_option autoImplicit false

namespace ScrapeTelemetry
namespace Duration

def wordLimit : Nat := Nat.pow 2 64

def within? (n : Nat) : Option Nat := if n < wordLimit then some n else none

structure TimeUnit where
  names : List String
  seconds : Nat
  nanos : Nat

def timeUnits : List TimeUnit :=
  [⟨["nanos", "nsec", "ns"], 0, 1⟩,
   ⟨["usec", "us", "µs"], 0, 1000⟩,
   ⟨["millis", "msec", "ms"], 0, 1000000⟩,
   ⟨["seconds", "second", "secs", "sec", "s"], 1, 0⟩,
   ⟨["minutes", "minute", "min", "mins", "m"], 60, 0⟩,
   ⟨["hours", "hour", "hr", "hrs", "h"], 3600, 0⟩,
   ⟨["days", "day", "d"], 86400, 0⟩,
   ⟨["weeks", "week", "wk", "wks", "w"], 604800, 0⟩,
   ⟨["months", "month", "M"], 2630016, 0⟩,
   ⟨["years", "year", "yr", "yrs", "y"], 31557600, 0⟩]

structure Fraction where
  numerator : Nat
  denominator : Nat

structure Gathered where
  seconds : Nat
  nanos : Nat

def fractionNanos? (f : Fraction) (u : TimeUnit) : Option Nat :=
  if u.seconds = 0 ∧ u.nanos = 1 then none
  else
    (within? (f.numerator * (u.seconds * perSecond + u.nanos))).map (· / f.denominator)

def Gathered.add? (g : Gathered) (n : Nat) (fraction : Option Fraction)
    (unitName : List Char) : Option Gathered := do
  let u ← timeUnits.find? fun u => u.names.contains (String.ofList unitName)
  let seconds ← within? (n * u.seconds)
  let nanos ← within? (n * u.nanos)
  let extra ← match fraction with
    | none => some 0
    | some f => fractionNanos? f u
  let nanos ← within? (g.nanos + nanos + extra)
  let total ← within? (g.seconds + seconds + nanos / perSecond)
  return ⟨total, nanos % perSecond⟩

def isUnitChar (c : Char) : Bool := c.isAlpha || c = 'µ'

inductive TextState where
  | between (first : Bool)
  | number (n : Nat)
  | fraction (n : Nat) (f : Fraction)
  | unit (n : Nat) (f : Option Fraction) (name : List Char)

def TextState.step? (g : Gathered) (c : Char) : TextState → Option (Gathered × TextState)
  | between first =>
    if c.isDigit then some (g, number (Decimal.digitValue c))
    else if isBlank c then some (g, between first)
    else none
  | number n =>
    if c.isDigit then (within? (10 * n + Decimal.digitValue c)).map fun n => (g, number n)
    else if isBlank c then some (g, number n)
    else if isUnitChar c then some (g, unit n none [c])
    else if c = '.' then some (g, fraction n ⟨0, 1⟩)
    else none
  | fraction n f =>
    if c.isDigit then do
      let numerator ← within? (10 * f.numerator + Decimal.digitValue c)
      let denominator ← within? (10 * f.denominator)
      return (g, fraction n ⟨numerator, denominator⟩)
    else if isBlank c then some (g, fraction n f)
    else if isUnitChar c && f.denominator ≠ 1 then some (g, unit n (some f) [c])
    else none
  | unit n f name =>
    if isUnitChar c then some (g, unit n f (name ++ [c]))
    else if c.isDigit then
      (g.add? n f name).map fun g => (g, number (Decimal.digitValue c))
    else if isBlank c then (g.add? n f name).map fun g => (g, between false)
    else none

def readFrom? (g : Gathered) (s : TextState) : List Char → Option Gathered
  | [] =>
    match s with
    | .between first => if first then none else some g
    | .number n => g.add? n none []
    | .fraction _ _ => none
    | .unit n f name => g.add? n f name
  | c :: cs =>
    match s.step? g c with
    | some (g, s) => readFrom? g s cs
    | none => none

def ofText? (text : String) : Option Duration :=
  if text = "0" then some .zero
  else
    (readFrom? ⟨0, 0⟩ (.between true) text.toList).map fun g =>
      ⟨g.seconds * perSecond + g.nanos⟩

def longPart (n : Nat) (name : String) : List String :=
  if n = 0 then [] else [toString n ++ name ++ if n = 1 then "" else "s"]

def shortPart (n : Nat) (name : String) : List String :=
  if n = 0 then [] else [toString n ++ name]

def toText (d : Duration) : String :=
  let s := d.wholeSeconds
  let inYear := s % 31557600
  let inMonth := inYear % 2630016
  let inDay := inMonth % 86400
  let ns := d.subNanos
  let parts :=
    longPart (s / 31557600) "year" ++ longPart (inYear / 2630016) "month" ++
      longPart (inMonth / 86400) "day" ++ shortPart (inDay / 3600) "h" ++
      shortPart (inDay % 3600 / 60) "m" ++ shortPart (inDay % 60) "s" ++
      shortPart (ns / 1000000) "ms" ++ shortPart (ns / 1000 % 1000) "us" ++
      shortPart (ns % 1000) "ns"
  if parts.isEmpty then "0s" else " ".intercalate parts

def withFraction (n fraction digits : Nat) : String :=
  let shown := toString fraction
  let padded := List.replicate (digits - shown.length) '0' ++ shown.toList
  let kept := (padded.reverse.dropWhile (· = '0')).reverse
  toString n ++ if kept.isEmpty then "" else "." ++ String.ofList kept

def toDecimalText (d : Duration) : String :=
  if d.nanos ≥ 1000000000 then withFraction d.wholeSeconds d.subNanos 9 ++ "s"
  else if d.nanos ≥ 1000000 then withFraction (d.nanos / 1000000) (d.nanos % 1000000) 6 ++ "ms"
  else if d.nanos ≥ 1000 then withFraction (d.nanos / 1000) (d.nanos % 1000) 3 ++ "µs"
  else toString d.nanos ++ "ns"

end Duration
end ScrapeTelemetry
