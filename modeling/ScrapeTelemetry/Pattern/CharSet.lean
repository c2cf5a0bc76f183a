import ScrapeTelemetry.Text.Blank
import ScrapeTelemetry.Text.CaseFold
import ScrapeTelemetry.Text.WordChar

/-!
# Sets of characters

What one character of a pattern may be: ranges and named classes, combined as
sets.
-/

set_option autoImplicit false

namespace ScrapeTelemetry

inductive CharSet where
  | none
  | range (first last : Char)
  | digit
  | blank
  | word
  | not (s : CharSet)
  | union (s t : CharSet)
  | inter (s t : CharSet)
  | anyCase (s : CharSet)
  deriving DecidableEq, Repr

namespace CharSet

def mem : CharSet → Char → Bool
  | none, _ => false
  | range a b, c => a ≤ c && c ≤ b
  | digit, c => isUnicodeDigit c
  | blank, c => isBlank c
  | word, c => isWordChar c
  | not s, c => !s.mem c
  | union s t, c => s.mem c || t.mem c
  | inter s t, c => s.mem c && t.mem c
  | anyCase s, c => s.mem c || (caseVariants c).any s.mem

def only (c : Char) : CharSet := range c c

def all : CharSet := not none

def diff (s t : CharSet) : CharSet := inter s (not t)

def symmDiff (s t : CharSet) : CharSet := union (diff s t) (diff t s)

def unions (l : List CharSet) : CharSet := l.foldr union none

def named? (name : String) : Option CharSet :=
  let lower := range 'a' 'z'
  let upper := range 'A' 'Z'
  let digits := range '0' '9'
  let letters := union lower upper
  match name with
  | "alnum" => some (union letters digits)
  | "alpha" => some letters
  | "ascii" => some (range '\x00' '\x7f')
  | "blank" => some (union (only ' ') (only '\t'))
  | "cntrl" => some (union (range '\x00' '\x1f') (only '\x7f'))
  | "digit" => some digits
  | "graph" => some (range '!' '~')
  | "lower" => some lower
  | "print" => some (range ' ' '~')
  | "punct" =>
    some (unions [range '!' '/', range ':' '@', range '[' (Char.ofNat 0x60), range '\x7b' '~'])
  | "space" => some (union (range '\t' '\r') (only ' '))
  | "upper" => some upper
  | "word" => some (unions [letters, digits, only '_'])
  | "xdigit" => some (unions [digits, range 'a' 'f', range 'A' 'F'])
  | _ => .none

end CharSet
end ScrapeTelemetry
