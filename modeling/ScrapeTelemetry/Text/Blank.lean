/-!
# Blank characters and trimming

A character is blank if it has the Unicode property White_Space. Separators
inside a line are a narrower class: the space and the tab.
-/

set_option autoImplicit false

namespace ScrapeTelemetry

def isBlank (c : Char) : Bool :=
  let n := c.toNat
  (9 ≤ n && n ≤ 13) || n = 0x20 || n = 0x85 || n = 0xA0 || n = 0x1680 ||
    (0x2000 ≤ n && n ≤ 0x200A) || n = 0x2028 || n = 0x2029 || n = 0x202F ||
    n = 0x205F || n = 0x3000

def isSeparator (c : Char) : Bool := c = ' ' || c = '\t'

def trimLeft (cs : List Char) : List Char := cs.dropWhile isBlank

def trimRight (cs : List Char) : List Char := (trimLeft cs.reverse).reverse

def trim (cs : List Char) : List Char := trimRight (trimLeft cs)

def skipSeparators (cs : List Char) : List Char := cs.dropWhile isSeparator

def skipSeparators1? : List Char → Option (List Char)
  | [] => none
  | c :: cs => if isSeparator c then some (skipSeparators cs) else none

def splitLines (cs : List Char) : List (List Char) :=
  cs.splitOn '\n'

end ScrapeTelemetry
