import ScrapeTelemetry.Clock.Instant
import ScrapeTelemetry.Number.Decimal
import ScrapeTelemetry.Text.Blank

/-!
# Timestamps

Instants are written as date and time of day in UTC, with as many groups of
three digits after the second as it takes. Other offsets from UTC are read, but
never written.
-/

set_option autoImplicit false

namespace ScrapeTelemetry
namespace Instant

def padded (width n : Nat) : String :=
  let digits := toString n
  String.ofList (List.replicate (width - digits.length) '0') ++ digits

def yearText (y : Int) : String :=
  if y < 0 then "-" ++ padded 4 y.natAbs
  else if 9999 < y then "+" ++ padded 4 y.natAbs
  else padded 4 y.natAbs

def fractionText (nanos : Nat) : String :=
  if nanos = 0 then ""
  else if nanos % 1000000 = 0 then "." ++ padded 3 (nanos / 1000000)
  else if nanos % 1000 = 0 then "." ++ padded 6 (nanos / 1000)
  else "." ++ padded 9 nanos

def toText (t : Instant) : String :=
  let days := t.nanos.fdiv perDay
  let inDay := (t.nanos - days * perDay).toNat
  let second := inDay / 1000000000
  let date := Date.ofDays days
  yearText date.year ++ "-" ++ padded 2 date.month ++ "-" ++ padded 2 date.day ++ "T" ++
    padded 2 (second / 3600) ++ ":" ++ padded 2 (second / 60 % 60) ++ ":" ++
    padded 2 (second % 60) ++ fractionText (inDay % 1000000000) ++ "Z"

def readNumber? (width : Nat) (cs : List Char) : Option (Nat × List Char) :=
  let digits := (cs.take width).takeWhile Char.isDigit
  if digits.isEmpty then none
  else some (Decimal.natOfDigits digits, cs.drop digits.length)

def readChar? (p : Char → Bool) : List Char → Option (List Char)
  | c :: cs => if p c then some cs else none
  | [] => none

def readYear? : List Char → Option (Int × List Char)
  | '-' :: cs => (readNumber? cs.length cs).map fun (n, r) => (-(n : Int), r)
  | '+' :: cs => (readNumber? cs.length cs).map fun (n, r) => ((n : Int), r)
  | cs => (readNumber? 4 cs).map fun (n, r) => ((n : Int), r)

def readFraction? : List Char → Option (Nat × List Char)
  | '.' :: cs =>
    let digits := cs.takeWhile Char.isDigit
    if digits.isEmpty then none
    else
      let kept := (digits ++ List.replicate 9 '0').take 9
      some (Decimal.natOfDigits kept, cs.dropWhile Char.isDigit)
  | cs => some (0, cs)

def readOffset? (cs : List Char) : Option Int :=
  let hoursAndMinutes (body : List Char) : Option Int := do
    let (h, rest) ← readNumber? 2 body
    let rest :=
      match rest with
      | ':' :: r => r
      | r => r
    let (m, rest) ← readNumber? 2 rest
    if rest.isEmpty && h ≤ 23 && m ≤ 59 then some (h * 60 + m : Int) else none
  match cs with
  | ['Z'] | ['z'] => some 0
  | '+' :: body => hoursAndMinutes body
  | '-' :: body => (hoursAndMinutes body).map fun n => -n
  | _ => none

def ofText? (text : String) : Option Instant := do
  let (year, rest) ← readYear? text.toList
  let (month, rest) ← readNumber? 2 (← readChar? (· = '-') rest)
  let (day, rest) ← readNumber? 2 (← readChar? (· = '-') rest)
  let (hour, rest) ← readNumber? 2 (← readChar? (fun c => c = 'T' || c = 't' || c = ' ') rest)
  let (minute, rest) ← readNumber? 2 (← readChar? (· = ':') rest)
  let (second, rest) ← readNumber? 2 (← readChar? (· = ':') rest)
  let (fraction, rest) ← readFraction? rest
  let offset ← readOffset? (trimLeft rest)
  let date : Date := ⟨year, month, day⟩
  if date.isValid && hour ≤ 23 && minute ≤ 59 && second ≤ 59 then
    let seconds : Int := date.toDays * 86400 + (hour * 3600 + minute * 60 + second : Nat)
    let t : Instant := ⟨(seconds - offset * 60) * perSecond + fraction⟩
    if t.isShown then some t else none
  else none

end Instant
end ScrapeTelemetry
