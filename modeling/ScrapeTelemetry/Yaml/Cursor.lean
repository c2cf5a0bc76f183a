/-!
# A place in a YAML text

The characters that are still to be read, with the place of the first of them.
Columns decide what belongs to which block.
-/

set_option autoImplicit false

namespace ScrapeTelemetry
namespace Yaml

def isBreak (c : Char) : Bool :=
  c = '\n' || c = '\r' || c = '\u0085' || c = '\u2028' || c = '\u2029'

def isSpace (c : Char) : Bool := c = ' ' || c = '\t'

def isGap (c : Char) : Bool := isSpace c || isBreak c

def endsWord (cs : List Char) : Bool := cs.head?.all isGap

def isAllowed (c : Char) : Bool :=
  let n := c.toNat
  n = 9 || n = 10 || n = 13 || (0x20 ≤ n && n ≤ 0x7E) || n = 0x85 ||
    (0xA0 ≤ n && n ≤ 0xFFFD) || 0x10000 ≤ n

structure Cursor where
  rest : List Char
  index : Nat
  line : Nat
  column : Nat

namespace Cursor

def start (text : List Char) : Cursor := ⟨text, 0, 0, 0⟩

def skip (c : Cursor) (n : Nat) : Cursor :=
  { c with rest := c.rest.drop n, index := c.index + n, column := c.column + n }

def breakLength : List Char → Nat
  | '\r' :: '\n' :: _ => 2
  | _ => 1

def skipBreak (c : Cursor) : Cursor :=
  let n := breakLength c.rest
  { rest := c.rest.drop n, index := c.index + n, line := c.line + 1, column := 0 }

theorem breakLength_pos (cs : List Char) : 0 < breakLength cs := by
  unfold breakLength
  split <;> simp

theorem skip_lt (c : Cursor) {n : Nat} (hn : 0 < n) {x : Char} {xs : List Char}
    (h : c.rest = x :: xs) : (c.skip n).rest.length < c.rest.length := by
  simp [skip, h]
  omega

theorem skipBreak_lt (c : Cursor) {x : Char} {xs : List Char} (h : c.rest = x :: xs) :
    c.skipBreak.rest.length < c.rest.length := by
  have := breakLength_pos c.rest
  simp [skipBreak, h] at this ⊢
  omega

def takeWhile (c : Cursor) (p : Char → Bool) : List Char × Cursor :=
  let taken := c.rest.takeWhile p
  (taken, c.skip taken.length)

def skipWhile (c : Cursor) (p : Char → Bool) : Cursor := (c.takeWhile p).2

def isAtMarker (c : Cursor) (mark : Char) : Bool :=
  c.column = 0 && c.rest.take 3 = [mark, mark, mark] && endsWord (c.rest.drop 3)

def isAtAnyMarker (c : Cursor) : Bool := c.isAtMarker '-' || c.isAtMarker '.'

def skipComment (c : Cursor) : Cursor :=
  if c.rest.head? = some '#' then c.skipWhile fun x => !isBreak x else c

def skipLineEnd? (c : Cursor) : Option Cursor :=
  let c := (c.skipWhile isSpace).skipComment
  match c.rest with
  | [] => some c
  | x :: _ => if isBreak x then some c else none

end Cursor

/-- Blanks before the first line break, and the line breaks. Blanks at the start
and at the end of further lines do not count. -/
structure Gap where
  blanks : List Char
  breaks : List Char

def keptBreak (c : Char) : Char := if c = '\u2028' ∨ c = '\u2029' then c else '\n'

def Gap.text (g : Gap) : List Char :=
  match g.breaks with
  | [] => g.blanks
  | ['\n'] => [' ']
  | '\n' :: more => more
  | all => all

def readGap? (indent : Nat) (g : Gap) (c : Cursor) : Option (Gap × Cursor) :=
  match _h : c.rest with
  | [] => some (g, c)
  | x :: _ =>
    if isSpace x then
      if g.breaks.isEmpty then readGap? indent { g with blanks := g.blanks ++ [x] } (c.skip 1)
      else if x = '\t' ∧ c.column < indent then none
      else readGap? indent g (c.skip 1)
    else if isBreak x then
      readGap? indent { g with breaks := g.breaks ++ [keptBreak x] } c.skipBreak
    else some (g, c)
  termination_by c.rest.length
  decreasing_by
    · exact c.skip_lt (by decide) _h
    · exact c.skip_lt (by decide) _h
    · exact c.skipBreak_lt _h

end Yaml
end ScrapeTelemetry
