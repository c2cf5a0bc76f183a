import ScrapeTelemetry.Json.Value

/-!
# Reading JSON

A reader of one JSON document. Every reader returns what it read with the rest
of the text. Nesting is bounded by a depth, as deeper documents are refused.
-/

set_option autoImplicit false

namespace ScrapeTelemetry
namespace Json

def isSpace (c : Char) : Bool := c = ' ' || c = '\t' || c = '\n' || c = '\r'

def skipSpace (cs : List Char) : List Char := cs.dropWhile isSpace

def hexValue? (c : Char) : Option Nat :=
  if c.isDigit then some (c.toNat - '0'.toNat)
  else if 'a' ≤ c ∧ c ≤ 'f' then some (c.toNat - 'a'.toNat + 10)
  else if 'A' ≤ c ∧ c ≤ 'F' then some (c.toNat - 'A'.toNat + 10)
  else none

def readUnit? : List Char → Option (Nat × List Char)
  | a :: b :: c :: d :: rest => do
    let a ← hexValue? a
    let b ← hexValue? b
    let c ← hexValue? c
    let d ← hexValue? d
    return (((a * 16 + b) * 16 + c) * 16 + d, rest)
  | _ => none

def isHighSurrogate (n : Nat) : Bool := 0xD800 ≤ n && n ≤ 0xDBFF

def isLowSurrogate (n : Nat) : Bool := 0xDC00 ≤ n && n ≤ 0xDFFF

def readEscapedUnit? (cs : List Char) : Option (Char × List Char) := do
  let (n, rest) ← readUnit? cs
  if isHighSurrogate n then
    match rest with
    | '\\' :: 'u' :: more =>
      let (low, rest) ← readUnit? more
      if isLowSurrogate low then
        return (Char.ofNat (0x10000 + (n - 0xD800) * 0x400 + (low - 0xDC00)), rest)
      else none
    | _ => none
  else if isLowSurrogate n then none
  else return (Char.ofNat n, rest)

def readEscape? : List Char → Option (Char × List Char)
  | '"' :: r => some ('"', r)
  | '\\' :: r => some ('\\', r)
  | '/' :: r => some ('/', r)
  | 'b' :: r => some ('\x08', r)
  | 'f' :: r => some ('\x0c', r)
  | 'n' :: r => some ('\n', r)
  | 'r' :: r => some ('\r', r)
  | 't' :: r => some ('\t', r)
  | 'u' :: r => readEscapedUnit? r
  | _ => none

def readString? (fuel : Nat) (gathered : List Char) (cs : List Char) :
    Option (String × List Char) :=
  match fuel with
  | 0 => none
  | fuel + 1 =>
    match cs with
    | [] => none
    | '"' :: rest => some (String.ofList gathered.reverse, rest)
    | '\\' :: rest =>
      match readEscape? rest with
      | some (c, r) => readString? fuel (c :: gathered) r
      | none => none
    | c :: rest => if c.toNat < 0x20 then none else readString? fuel (c :: gathered) rest

def numberOf? (wholeText : Bool) (d : Decimal) : Option Json :=
  let n : Int := if d.negative then -(d.coefficient : Int) else d.coefficient
  let x := floatOfDecimal d
  if wholeText && -(Nat.pow 2 63) ≤ n && n < Nat.pow 2 64 && !(d.negative && n = 0) then
    some (.integer n)
  else if x.isFinite then some (.float x)
  else none

def readFraction? (cs : List Char) : Option (List Char × List Char) :=
  match cs with
  | '.' :: rest =>
    let digits := rest.takeWhile Char.isDigit
    if digits.isEmpty then none else some (digits, rest.dropWhile Char.isDigit)
  | _ => some ([], cs)

def readPower? (cs : List Char) : Option (Option Int × List Char) :=
  match cs with
  | c :: rest =>
    if c = 'e' ∨ c = 'E' then
      let (negative, body) :=
        match rest with
        | '-' :: t => (true, t)
        | '+' :: t => (false, t)
        | t => (false, t)
      let digits := body.takeWhile Char.isDigit
      if digits.isEmpty then none
      else
        let n : Int := Decimal.natOfDigits digits
        some (some (if negative then -n else n), body.dropWhile Char.isDigit)
    else some (none, cs)
  | [] => some (none, [])

def readNumber? (cs : List Char) : Option (Json × List Char) := do
  let (negative, body) :=
    match cs with
    | '-' :: t => (true, t)
    | t => (false, t)
  let whole := body.takeWhile Char.isDigit
  if whole.isEmpty || (whole.head? = some '0' && whole.length > 1) then none
  let (fraction, rest) ← readFraction? (body.dropWhile Char.isDigit)
  let (power, rest) ← readPower? rest
  let d : Decimal :=
    ⟨negative, Decimal.natOfDigits (whole ++ fraction), power.getD 0 - fraction.length⟩
  return (← numberOf? (fraction.isEmpty && power.isNone) d, rest)

def readWord? (word : String) (value : Json) (cs : List Char) : Option (Json × List Char) :=
  if word.toList.isPrefixOf cs then some (value, cs.drop word.length) else none

def depthLimit : Nat := 128

mutual

def readValue? (fuel depth : Nat) (cs : List Char) : Option (Json × List Char) :=
  match fuel with
  | 0 => none
  | fuel + 1 =>
    match skipSpace cs with
    | [] => none
    | '"' :: rest => (readString? fuel [] rest).map fun (s, r) => (.text s, r)
    | '[' :: rest =>
      match depth with
      | 0 => none
      | depth + 1 =>
        match skipSpace rest with
        | ']' :: r => some (.list [], r)
        | r => (readItems? fuel depth [] r).map fun (items, r) => (.list items, r)
    | '\x7b' :: rest =>
      match depth with
      | 0 => none
      | depth + 1 =>
        match skipSpace rest with
        | '\x7d' :: r => some (.object [], r)
        | r => (readFields? fuel depth [] r).map fun (fields, r) => (.object fields, r)
    | 't' :: rest => readWord? "rue" (.bool true) rest
    | 'f' :: rest => readWord? "alse" (.bool false) rest
    | 'n' :: rest => readWord? "ull" .null rest
    | other => readNumber? other

def readItems? (fuel depth : Nat) (gathered : List Json) (cs : List Char) :
    Option (List Json × List Char) :=
  match fuel with
  | 0 => none
  | fuel + 1 =>
    match readValue? fuel depth cs with
    | none => none
    | some (v, rest) =>
      match skipSpace rest with
      | ',' :: r => readItems? fuel depth (v :: gathered) r
      | ']' :: r => some ((v :: gathered).reverse, r)
      | _ => none

def readFields? (fuel depth : Nat) (gathered : List (String × Json)) (cs : List Char) :
    Option (List (String × Json) × List Char) :=
  match fuel with
  | 0 => none
  | fuel + 1 =>
    match skipSpace cs with
    | '"' :: rest =>
      match readString? fuel [] rest with
      | none => none
      | some (name, rest) =>
        match skipSpace rest with
        | ':' :: rest =>
          match readValue? fuel depth rest with
          | none => none
          | some (v, rest) =>
            match skipSpace rest with
            | ',' :: r => readFields? fuel depth ((name, v) :: gathered) r
            | '\x7d' :: r => some (((name, v) :: gathered).reverse, r)
            | _ => none
        | _ => none
    | _ => none

end

def read? (s : String) : Option Json :=
  let cs := s.toList
  match readValue? (2 * cs.length + 2) depthLimit cs with
  | some (j, rest) => if (skipSpace rest).isEmpty then some j else none
  | none => none

end Json
end ScrapeTelemetry
