import ScrapeTelemetry.Number.Decimal
import ScrapeTelemetry.Pattern.Syntax

/-!
# Reading patterns

The pattern language: literals, escapes, classes with set operations, anchors,
groups with flags or names, alternatives and repetitions. There are no back
references and nothing looks around. What does not follow the grammar, or grows
too large when its repetitions are written out, is no pattern.
-/

set_option autoImplicit false

namespace ScrapeTelemetry
namespace Pattern

structure Flags where
  anyCase : Bool
  multiLine : Bool
  dotAll : Bool
  verbose : Bool

def Flags.none : Flags := ⟨false, false, false, false⟩

structure ReadState where
  flags : Flags
  names : List String

def charsUnder (f : Flags) (s : CharSet) : CharSet := if f.anyCase then .anyCase s else s

inductive Escape where
  | literal (c : Char)
  | set (s : CharSet)
  | anchor (a : Anchor)

def hexDigit? (c : Char) : Option Nat :=
  if c.isDigit then some (c.toNat - '0'.toNat)
  else if 'a' ≤ c ∧ c ≤ 'f' then some (c.toNat - 'a'.toNat + 10)
  else if 'A' ≤ c ∧ c ≤ 'F' then some (c.toNat - 'A'.toNat + 10)
  else none

def charOfHex? (digits : List Char) : Option Char := do
  if digits.isEmpty then none
  let values ← digits.mapM hexDigit?
  let n := values.foldl (fun n d => 16 * n + d) 0
  if n < 0xD800 ∨ (0xDFFF < n ∧ n < 0x110000) then some (Char.ofNat n) else none

def readHex? (width : Nat) (cs : List Char) : Option (Escape × List Char) :=
  match cs with
  | '\x7b' :: rest =>
    match rest.dropWhile (· ≠ '\x7d') with
    | _ :: after => (charOfHex? (rest.takeWhile (· ≠ '\x7d'))).map fun c => (.literal c, after)
    | [] => none
  | _ =>
    if cs.length < width then none
    else (charOfHex? (cs.take width)).map fun c => (.literal c, cs.drop width)

def readBoundary (cs : List Char) : Anchor × List Char :=
  let kinds : List (String × Anchor) :=
    [("\x7bstart\x7d", .wordStart), ("\x7bend\x7d", .wordEnd),
     ("\x7bstart-half\x7d", .wordStartHalf), ("\x7bend-half\x7d", .wordEndHalf)]
  match kinds.find? fun k => k.1.toList.isPrefixOf cs with
  | some k => (k.2, cs.drop k.1.length)
  | none => (.wordBoundary, cs)

def readEscape? : List Char → Option (Escape × List Char)
  | [] => none
  | c :: rest =>
    match c with
    | 'd' => some (.set .digit, rest)
    | 'D' => some (.set (.not .digit), rest)
    | 's' => some (.set .blank, rest)
    | 'S' => some (.set (.not .blank), rest)
    | 'w' => some (.set .word, rest)
    | 'W' => some (.set (.not .word), rest)
    | 'b' =>
      let (a, rest) := readBoundary rest
      some (.anchor a, rest)
    | 'B' => some (.anchor .noWordBoundary, rest)
    | 'A' => some (.anchor .textStart, rest)
    | 'z' => some (.anchor .textEnd, rest)
    | '<' => some (.anchor .wordStart, rest)
    | '>' => some (.anchor .wordEnd, rest)
    | 'n' => some (.literal '\n', rest)
    | 't' => some (.literal '\t', rest)
    | 'r' => some (.literal '\r', rest)
    | 'f' => some (.literal '\x0c', rest)
    | 'v' => some (.literal '\x0b', rest)
    | 'a' => some (.literal '\x07', rest)
    | 'x' => readHex? 2 rest
    | 'u' => readHex? 4 rest
    | 'U' => readHex? 8 rest
    | c => if c.isAlphanum || 0x80 ≤ c.toNat then none else some (.literal c, rest)

inductive SetOperator where
  | inter
  | diff
  | symmDiff

def SetOperator.apply : SetOperator → CharSet → CharSet → CharSet
  | inter => CharSet.inter
  | diff => CharSet.diff
  | symmDiff => CharSet.symmDiff

abbrev Pending := Option (CharSet × SetOperator)

def closeOperand (pending : Pending) (items : CharSet) : CharSet :=
  match pending with
  | none => items
  | some (left, op) => op.apply left items

def dropBlanks (verbose : Bool) (cs : List Char) : List Char :=
  if verbose then cs.dropWhile isBlank else cs

def readClassItem? : List Char → Option (Escape × List Char)
  | [] => none
  | '\\' :: rest => readEscape? rest
  | c :: rest => some (.literal c, rest)

def readAsciiClass? (cs : List Char) : Option (CharSet × List Char) :=
  match cs with
  | ':' :: rest =>
    let (negated, body) :=
      match rest with
      | '^' :: r => (true, r)
      | r => (false, r)
    let name := body.takeWhile (· ≠ ':')
    match body.dropWhile (· ≠ ':') with
    | ':' :: ']' :: after =>
      (CharSet.named? (String.ofList name)).map fun s => (if negated then .not s else s, after)
    | _ => none
  | _ => none

def readClassRange? (f : Flags) (cs : List Char) : Option (CharSet × List Char) := do
  let (item, rest) ← readClassItem? cs
  let single ← match item with
    | .literal c => some (CharSet.only c)
    | .set s => some s
    | .anchor _ => none
  match rest with
  | [] => none
  | '-' :: after =>
    let next := (dropBlanks f.verbose after).head?
    if next = some ']' || next = some '-' then return (single, rest)
    match item with
    | .literal a =>
      let (upper, rest) ← readClassItem? (dropBlanks f.verbose after)
      match upper with
      | .literal b => if a ≤ b then return (.range a b, rest) else none
      | _ => none
    | _ => none
  | _ => return (single, rest)

/-- Negation comes after case: a negated class has no character that differs in
case only from one that it names. -/
def finishClass (f : Flags) (negated : Bool) (s : CharSet) : CharSet :=
  let s := charsUnder f s
  if negated then .not s else s

mutual

def readClass? (f : Flags) (fuel : Nat) (cs : List Char) : Option (CharSet × List Char) :=
  match fuel with
  | 0 => none
  | fuel + 1 =>
    let (negated, body) :=
      match dropBlanks f.verbose cs with
      | '^' :: rest => (true, dropBlanks f.verbose rest)
      | rest => (false, rest)
    let hyphens := body.takeWhile (· = '-')
    let afterHyphens := dropBlanks f.verbose (body.dropWhile (· = '-'))
    let (first, rest) : CharSet × List Char :=
      if hyphens.isEmpty then
        match afterHyphens with
        | ']' :: r => (.only ']', r)
        | r => (.none, r)
      else (.only '-', afterHyphens)
    (readClassItems? f fuel none first rest).map fun (s, r) => (finishClass f negated s, r)

def readClassItems? (f : Flags) (fuel : Nat) (pending : Pending) (items : CharSet)
    (cs : List Char) : Option (CharSet × List Char) :=
  match fuel with
  | 0 => none
  | fuel + 1 =>
    match dropBlanks f.verbose cs with
    | [] => none
    | ']' :: rest => some (closeOperand pending items, rest)
    | '[' :: rest =>
      match readAsciiClass? rest with
      | some (s, r) => readClassItems? f fuel pending (.union items s) r
      | none =>
        match readClass? f fuel rest with
        | some (s, r) => readClassItems? f fuel pending (.union items s) r
        | none => none
    | '&' :: '&' :: rest =>
      readClassItems? f fuel (some (closeOperand pending items, .inter)) .none rest
    | '-' :: '-' :: rest =>
      readClassItems? f fuel (some (closeOperand pending items, .diff)) .none rest
    | '~' :: '~' :: rest =>
      readClassItems? f fuel (some (closeOperand pending items, .symmDiff)) .none rest
    | other =>
      match readClassRange? f other with
      | some (s, r) => readClassItems? f fuel pending (.union items s) r
      | none => none

end

def countLimit : Nat := Nat.pow 2 32

def readCount? (cs : List Char) : Option (Nat × List Char) :=
  let body := cs.dropWhile isBlank
  let digits := body.takeWhile Char.isDigit
  let n := Decimal.natOfDigits digits
  if digits.isEmpty || countLimit ≤ n then none
  else some (n, (body.dropWhile Char.isDigit).dropWhile isBlank)

def readCounts? (cs : List Char) : Option (Nat × Option Nat × List Char) := do
  let (least, rest) ← readCount? cs
  match rest with
  | '\x7d' :: r => return (least, some least, r)
  | ',' :: r =>
    match r.dropWhile isBlank with
    | '\x7d' :: r => return (least, none, r)
    | r =>
      let (most, rest) ← readCount? r
      match rest with
      | '\x7d' :: r => if least ≤ most then return (least, some most, r) else none
      | _ => none
  | _ => none

def readRepetition? (cs : List Char) : Option (Option (Nat × Option Nat × List Char)) :=
  match cs with
  | '*' :: r => some (some (0, none, r))
  | '+' :: r => some (some (1, none, r))
  | '?' :: r => some (some (0, some 1, r))
  | '\x7b' :: r => some (readCounts? r)
  | _ => none

def dropLazy : List Char → List Char
  | '?' :: r => r
  | r => r

def isNameHead (c : Char) : Bool := c.isAlpha || c = '_'

def isNameTail (c : Char) : Bool := c.isAlphanum || c = '_' || c = '.' || c = '[' || c = ']'

def readGroupName? (st : ReadState) (cs : List Char) : Option (ReadState × List Char) :=
  let name := cs.takeWhile (· ≠ '>')
  match name, cs.dropWhile (· ≠ '>') with
  | c :: more, _ :: rest =>
    let text := String.ofList name
    if isNameHead c && more.all isNameTail && !st.names.contains text then
      some ({ st with names := text :: st.names }, rest)
    else none
  | _, _ => none

def readFlags? (f : Flags) (seen : List Char) (on : Bool) :
    List Char → Option (Flags × List Char)
  | [] => none
  | c :: rest =>
    if c = ':' ∨ c = ')' then
      if seen.head? = some '-' then none else some (f, c :: rest)
    else if seen.contains c then none
    else
      match c with
      | '-' => readFlags? f (c :: seen) false rest
      | 'i' => readFlags? { f with anyCase := on } (c :: seen) on rest
      | 'm' => readFlags? { f with multiLine := on } (c :: seen) on rest
      | 's' => readFlags? { f with dotAll := on } (c :: seen) on rest
      | 'x' => readFlags? { f with verbose := on } (c :: seen) on rest
      | 'U' | 'u' | 'R' => readFlags? f (c :: seen) on rest
      | _ => none

inductive GroupStart where
  | directive (f : Flags) (rest : List Char)
  | group (st : ReadState) (rest : List Char)

def readGroupStart? (st : ReadState) (cs : List Char) : Option GroupStart :=
  match cs with
  | '?' :: 'P' :: '<' :: rest => (readGroupName? st rest).map fun (st, r) => .group st r
  | '?' :: '<' :: rest => (readGroupName? st rest).map fun (st, r) => .group st r
  | '?' :: rest =>
    match readFlags? st.flags [] true rest with
    | some (f, ':' :: r) => some (.group { st with flags := f } r)
    | some (f, ')' :: r) => if rest.head? = some ')' then none else some (.directive f r)
    | _ => none
  | _ => some (.group st cs)

def skipVerbose (f : Flags) (fuel : Nat) (cs : List Char) : List Char :=
  match fuel with
  | 0 => cs
  | fuel + 1 =>
    if f.verbose then
      match cs.dropWhile isBlank with
      | '#' :: rest => skipVerbose f fuel (rest.dropWhile (· ≠ '\n'))
      | other => other
    else cs

def dotSet (f : Flags) : CharSet := if f.dotAll then .all else .not (.only '\n')

def ofEscape (f : Flags) : Escape → Pattern
  | .literal c => .chars (charsUnder f (.only c))
  | .set s => .chars s
  | .anchor a => .anchor a

def ofItems (items : List (Option Pattern)) : Pattern :=
  (items.filterMap id).foldr seq empty

mutual

def readAlternatives? (fuel : Nat) (st : ReadState) (cs : List Char) :
    Option (Pattern × ReadState × List Char) :=
  match fuel with
  | 0 => none
  | fuel + 1 =>
    match readItems? fuel st [] cs with
    | some (p, st, '|' :: rest) =>
      match readAlternatives? fuel st rest with
      | some (q, st, r) => some (either p q, st, r)
      | none => none
    | other => other

def readItems? (fuel : Nat) (st : ReadState) (done : List (Option Pattern)) (cs : List Char) :
    Option (Pattern × ReadState × List Char) :=
  match fuel with
  | 0 => none
  | fuel + 1 =>
    let cs := skipVerbose st.flags (cs.length + 1) cs
    match readRepetition? cs with
    | some found =>
      match found, done with
      | some (least, most, rest), some p :: more =>
        readItems? fuel st (some (repeated p least most) :: more) (dropLazy rest)
      | _, _ => none
    | none =>
      match cs with
      | [] => some (ofItems done.reverse, st, [])
      | ')' :: _ | '|' :: _ => some (ofItems done.reverse, st, cs)
      | '(' :: rest =>
        match readGroupStart? st rest with
        | none => none
        | some (.directive f r) => readItems? fuel { st with flags := f } (none :: done) r
        | some (.group inner r) =>
          match readAlternatives? fuel inner r with
          | some (p, after, ')' :: r) =>
            readItems? fuel { st with names := after.names } (some p :: done) r
          | _ => none
      | '[' :: rest =>
        match readClass? st.flags fuel rest with
        | some (s, r) => readItems? fuel st (some (chars s) :: done) r
        | none => none
      | '\\' :: rest =>
        match readEscape? rest with
        | some (e, r) => readItems? fuel st (some (ofEscape st.flags e) :: done) r
        | none => none
      | '.' :: rest => readItems? fuel st (some (chars (dotSet st.flags)) :: done) rest
      | '^' :: rest =>
        let a := if st.flags.multiLine then Anchor.lineStart else Anchor.textStart
        readItems? fuel st (some (anchor a) :: done) rest
      | '$' :: rest =>
        let a := if st.flags.multiLine then Anchor.lineEnd else Anchor.textEnd
        readItems? fuel st (some (anchor a) :: done) rest
      | c :: rest =>
        readItems? fuel st (some (chars (charsUnder st.flags (.only c))) :: done) rest

end

def sizeLimit : Nat := 400000

def ofText? (text : String) : Option Pattern :=
  let cs := text.toList
  match readAlternatives? (4 * cs.length + 4) ⟨.none, []⟩ cs with
  | some (p, _, []) => if p.size ≤ sizeLimit then some p else none
  | _ => none

end Pattern
end ScrapeTelemetry
