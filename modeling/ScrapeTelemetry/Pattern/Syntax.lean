import ScrapeTelemetry.Pattern.CharSet

/-!
# Patterns

A pattern describes texts. `Pattern.ends` runs it: from a set of positions in a
text it gives all positions at which a match that begins there can end, so no
match is tried twice.
-/

set_option autoImplicit false

namespace ScrapeTelemetry

inductive Anchor where
  | textStart
  | textEnd
  | lineStart
  | lineEnd
  | wordBoundary
  | noWordBoundary
  | wordStart
  | wordEnd
  | wordStartHalf
  | wordEndHalf
  deriving DecidableEq, Repr

inductive Pattern where
  | empty
  | chars (s : CharSet)
  | anchor (a : Anchor)
  | seq (p q : Pattern)
  | either (p q : Pattern)
  | repeated (p : Pattern) (least : Nat) (most : Option Nat)
  deriving DecidableEq, Repr

def Anchor.holds (text : Array Char) (i : Nat) (a : Anchor) : Bool :=
  let before := if i = 0 then none else text[i - 1]?
  let after := text[i]?
  let wordBefore := before.any isWordChar
  let wordAfter := after.any isWordChar
  match a with
  | textStart => i = 0
  | textEnd => i = text.size
  | lineStart => i = 0 || before = some '\n'
  | lineEnd => i = text.size || after = some '\n'
  | wordBoundary => wordBefore != wordAfter
  | noWordBoundary => wordBefore == wordAfter
  | wordStart => !wordBefore && wordAfter
  | wordEnd => wordBefore && !wordAfter
  | wordStartHalf => !wordBefore
  | wordEndHalf => !wordAfter

namespace Pattern

def merge (ps qs : List Nat) : List Nat := ps ++ qs.filter fun q => !ps.contains q

def reach (step : List Nat → List Nat) : Nat → List Nat → List Nat → List Nat
  | 0, seen, _ => seen
  | n + 1, seen, fresh =>
    let added := (step fresh).filter fun q => !seen.contains q
    if added.isEmpty then seen else reach step n (merge seen added) added

def ends (text : Array Char) : Pattern → List Nat → List Nat
  | empty, ps => ps
  | chars s, ps =>
    ps.filterMap fun i =>
      match text[i]? with
      | some c => if s.mem c then some (i + 1) else none
      | none => none
  | anchor a, ps => ps.filter fun i => a.holds text i
  | seq p q, ps => q.ends text (p.ends text ps)
  | either p q, ps => merge (p.ends text ps) (q.ends text ps)
  | repeated p least most, ps =>
    let start := Nat.repeat (p.ends text) least ps
    match most with
    | none => reach (p.ends text) text.size start start
    | some m => reach (p.ends text) (m - least) start start

def size : Pattern → Nat
  | empty | chars _ | anchor _ => 1
  | seq p q | either p q => p.size + q.size + 1
  | repeated p least most => p.size * (max least (most.getD 0) + 1) + 1

def isMatch (p : Pattern) (text : String) : Bool :=
  let chars := text.toList.toArray
  !(p.ends chars (List.range (chars.size + 1))).isEmpty

end Pattern
end ScrapeTelemetry
