import ScrapeTelemetry.Json.Reader
import ScrapeTelemetry.Yaml.Cursor

/-!
# YAML scalars

A scalar is a text in one of five styles. Plain and quoted scalars may run over
several lines, which are folded; a block scalar keeps its lines or folds them.
-/

set_option autoImplicit false

namespace ScrapeTelemetry
namespace Yaml

inductive ScalarStyle where
  | plain
  | singleQuoted
  | doubleQuoted
  | literal
  | folded
  deriving DecidableEq, Repr

structure Scalar where
  text : String
  style : ScalarStyle
  tag : Option String := none
  deriving DecidableEq, Repr

def isFlowIndicator (c : Char) : Bool :=
  c = ',' || c = '[' || c = ']' || c = '\x7b' || c = '\x7d'

def plainWord? (inFlow : Bool) : List Char → Option (List Char)
  | [] => some []
  | c :: rest =>
    if isGap c then some []
    else if inFlow && c = ':' && rest.head?.any (fun d => isFlowIndicator d || d = '?') then none
    else if c = ':' && endsWord rest then some []
    else if inFlow && isFlowIndicator c then some []
    else (plainWord? inFlow rest).map (c :: ·)

structure PlainText where
  text : List Char
  newLine : Bool

def readPlain? (inFlow : Bool) (indent : Nat) (soFar : List Char) (gap : Gap) (c : Cursor) :
    Option (PlainText × Cursor) :=
  let done : Option (PlainText × Cursor) := some (⟨soFar, !gap.breaks.isEmpty⟩, c)
  if c.isAtAnyMarker || c.rest.head? = some '#' then done
  else
    match plainWord? inFlow c.rest with
    | none => none
    | some [] => done
    | some word =>
      let text := soFar ++ gap.text ++ word
      match readGap? indent ⟨[], []⟩ (c.skip word.length) with
      | none => none
      | some (next, after) =>
        if next.blanks.isEmpty && next.breaks.isEmpty then some (⟨text, false⟩, after)
        else if !inFlow && after.column < indent then
          some (⟨text, !next.breaks.isEmpty⟩, after)
        else if after.rest.length < c.rest.length then readPlain? inFlow indent text next after
        else none
  termination_by c.rest.length

def letterEscape? (c : Char) : Option Char :=
  let table : List (Char × Char) :=
    [('0', '\x00'), ('a', '\x07'), ('b', '\x08'), ('t', '\t'), ('\t', '\t'), ('n', '\n'),
     ('v', '\x0b'), ('f', '\x0c'), ('r', '\r'), ('e', '\x1b'), (' ', ' '), ('"', '"'),
     ('/', '/'), ('\\', '\\'), ('N', '\u0085'), ('_', '\u00a0'), ('L', '\u2028'),
     ('P', '\u2029')]
  table.lookup c

def codeEscapeWidth? (c : Char) : Option Nat :=
  [('x', 2), ('u', 4), ('U', 8)].lookup c

def charOfCode? (digits : List Char) : Option Char := do
  let values ← digits.mapM Json.hexValue?
  let n := values.foldl (fun n d => 16 * n + d) 0
  if n.isValidChar then some (Char.ofNat n) else none

def quotedEscape? (cs : List Char) : Option (Char × Nat) :=
  match cs with
  | [] => none
  | c :: rest =>
    match letterEscape? c, codeEscapeWidth? c with
    | some x, _ => some (x, 1)
    | none, some width =>
      if rest.length < width then none
      else (charOfCode? (rest.take width)).map fun x => (x, width + 1)
    | none, none => none

def readQuoted? (double : Bool) (soFar : List Char) (c : Cursor) :
    Option (List Char × Cursor) :=
  if c.isAtAnyMarker then none
  else
    match c.rest with
    | [] => none
    | x :: rest =>
      let goOn (text : List Char) (after : Cursor) : Option (List Char × Cursor) :=
        if after.rest.length < c.rest.length then readQuoted? double text after else none
      if !double && x = '\'' then
        if rest.head? = some '\'' then goOn (soFar ++ ['\'']) (c.skip 2)
        else some (soFar, c.skip 1)
      else if double && x = '"' then some (soFar, c.skip 1)
      else if double && x = '\\' && rest.head?.any isBreak then
        match readGap? 0 ⟨[], []⟩ (c.skip 1) with
        | some (gap, after) => goOn (soFar ++ gap.breaks.drop 1) after
        | none => none
      else if double && x = '\\' then
        match quotedEscape? rest with
        | some (e, n) => goOn (soFar ++ [e]) (c.skip (n + 1))
        | none => none
      else if isGap x then
        match readGap? 0 ⟨[], []⟩ c with
        | some (gap, after) => goOn (soFar ++ gap.text) after
        | none => none
      else goOn (soFar ++ [x]) (c.skip 1)
  termination_by c.rest.length

inductive Chomping where
  | strip
  | clip
  | keep
  deriving DecidableEq, Repr

def chomping? (c : Char) : Option Chomping := [('-', .strip), ('+', .keep)].lookup c

def indentDigit? (c : Char) : Option Nat :=
  if c.isDigit && c ≠ '0' then some (c.toNat - '0'.toNat) else none

def blockHeader (cs : List Char) : Chomping × Option Nat × Nat :=
  match cs with
  | a :: b :: _ =>
    match chomping? a, indentDigit? a with
    | some ch, _ =>
      match indentDigit? b with
      | some n => (ch, some n, 2)
      | none => (ch, none, 1)
    | none, some n =>
      match chomping? b with
      | some ch => (ch, some n, 2)
      | none => (.clip, some n, 1)
    | none, none => (.clip, none, 0)
  | [a] =>
    match chomping? a, indentDigit? a with
    | some ch, _ => (ch, none, 1)
    | none, some n => (.clip, some n, 1)
    | none, none => (.clip, none, 0)
  | [] => (.clip, none, 0)

structure BlockLead where
  breaks : List Char
  deepest : Nat
  cursor : Cursor

/-- Reads empty lines and the indentation of the next line, which goes up to
column `indent?` if it is known. A tab is no indentation. -/
def readLead? (indent? : Option Nat) (breaks : List Char) (deepest : Nat) (c : Cursor) :
    Option BlockLead :=
  let within (c : Cursor) : Bool := indent?.all fun n => c.column < n
  match _h : c.rest with
  | [] => some ⟨breaks, max deepest c.column, c⟩
  | x :: _ =>
    if x = ' ' && within c then readLead? indent? breaks deepest (c.skip 1)
    else if x = '\t' && within c then none
    else if isBreak x then
      readLead? indent? (breaks ++ [keptBreak x]) (max deepest c.column) c.skipBreak
    else some ⟨breaks, max deepest c.column, c⟩
  termination_by c.rest.length
  decreasing_by
    · exact c.skip_lt (by decide) _h
    · exact c.skipBreak_lt _h

structure BlockText where
  text : List Char
  lastBreak : List Char
  emptyLines : List Char
  afterBlank : Bool

def BlockText.addLine (b : BlockText) (folded : Bool) (line : List Char) : BlockText :=
  let blank := line.head?.any isSpace
  let joint :=
    if folded && b.lastBreak = ['\n'] && !b.afterBlank && !blank then
      if b.emptyLines.isEmpty then [' '] else b.emptyLines
    else b.lastBreak ++ b.emptyLines
  ⟨b.text ++ joint ++ line, [], [], blank⟩

def BlockText.chomped (b : BlockText) : Chomping → List Char
  | .strip => b.text
  | .clip => b.text ++ b.lastBreak
  | .keep => b.text ++ b.lastBreak ++ b.emptyLines

def readBlockLines? (folded : Bool) (indent : Nat) (b : BlockText) (c : Cursor) :
    Option (BlockText × Cursor) :=
  if c.column ≠ indent ∨ c.rest.isEmpty then some (b, c)
  else
    let (line, atEnd) := c.takeWhile fun x => !isBreak x
    let b := b.addLine folded line
    match atEnd.rest with
    | [] => some (b, atEnd)
    | x :: _ =>
      match readLead? (some indent) [] 0 atEnd.skipBreak with
      | none => none
      | some lead =>
        let b := { b with lastBreak := [keptBreak x], emptyLines := lead.breaks }
        if lead.cursor.rest.length < c.rest.length then
          readBlockLines? folded indent b lead.cursor
        else none
  termination_by c.rest.length

def readBlock? (folded : Bool) (around? : Option Nat) (c : Cursor) :
    Option (List Char × Cursor) := do
  let (chomping, increment?, n) := blockHeader c.rest
  let atEnd ← (c.skip n).skipLineEnd?
  let first := if atEnd.rest.isEmpty then atEnd else atEnd.skipBreak
  let known? := increment?.map fun i => around?.getD 0 + i
  let lead ← readLead? known? [] 0 first
  let least := max 1 (around?.elim 0 (· + 1))
  let indent := known?.getD (max lead.deepest least)
  let (b, c) ← readBlockLines? folded indent ⟨[], [], lead.breaks, false⟩ lead.cursor
  return (b.chomped chomping, c)

end Yaml
end ScrapeTelemetry
