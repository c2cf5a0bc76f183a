import ScrapeTelemetry.Yaml.Scalar

/-!
# YAML tokens

Indentation and indicators become tokens that bracket the blocks. Whether a node
is the key of a mapping shows at the colon behind it; the tokens of the key are
then put before the node.
-/

set_option autoImplicit false

namespace ScrapeTelemetry
namespace Yaml

inductive Token where
  | version (major minor : Nat)
  | tagShorthand (handle start : String)
  | documentStart
  | documentEnd
  | blockSequenceStart
  | blockMappingStart
  | blockEnd
  | sequenceStart
  | sequenceEnd
  | mappingStart
  | mappingEnd
  | item
  | comma
  | key
  | value
  | anchor (name : String)
  | alias (name : String)
  | tag (handle ending : String)
  | scalar (s : Scalar)
  deriving DecidableEq, Repr

/-- A node that may turn out to be a key. -/
structure KeyCandidate where
  position : Nat
  required : Bool
  index : Nat
  line : Nat
  column : Nat

structure Reader where
  cursor : Cursor
  tokens : List Token
  indents : List Nat
  candidate : Option KeyCandidate
  outer : List (Option KeyCandidate)
  keyAllowed : Bool

namespace Reader

def start (text : List Char) : Reader := ⟨.start text, [], [], none, [], true⟩

def inFlow (r : Reader) : Bool := !r.outer.isEmpty

def put (r : Reader) (t : Token) : Reader := { r with tokens := t :: r.tokens }

def putAt (r : Reader) (position : Nat) (t : Token) : Reader :=
  { r with tokens := r.tokens.insertIdx (r.tokens.length - position) t }

def isDeeper (r : Reader) (column : Nat) : Bool :=
  match r.indents with
  | [] => true
  | i :: _ => i < column

def openBlock (r : Reader) (column position : Nat) (t : Token) : Reader :=
  if !r.inFlow && r.isDeeper column then
    { r.putAt position t with indents := column :: r.indents }
  else r

def closeBlocks (r : Reader) (closes : Nat → Bool) : Reader :=
  if r.inFlow then r
  else
    let closed := r.indents.takeWhile closes
    { r with
      tokens := closed.map (fun _ => .blockEnd) ++ r.tokens
      indents := r.indents.dropWhile closes }

def dropCandidate? (r : Reader) : Option Reader :=
  if r.candidate.any (·.required) then none else some { r with candidate := none }

/-- A key stands on one line and has at most 1024 characters before its colon. -/
def isStale (c : Cursor) (k : KeyCandidate) : Bool :=
  k.line < c.line || k.index + 1024 < c.index

def dropStale? (r : Reader) : Option Reader :=
  let stale (k : Option KeyCandidate) : Bool := k.any (isStale r.cursor)
  let keep (k : Option KeyCandidate) : Option KeyCandidate := if stale k then none else k
  if (r.candidate :: r.outer).any fun k => stale k && k.any (·.required) then none
  else some { r with candidate := keep r.candidate, outer := r.outer.map keep }

def markCandidate? (r : Reader) : Option Reader :=
  if r.keyAllowed then do
    let r ← r.dropCandidate?
    let c := r.cursor
    let required := !r.inFlow && r.indents.head? = some c.column
    return { r with
      candidate := some ⟨r.tokens.length, required, c.index, c.line, c.column⟩ }
  else some r

def takeIndicator (r : Reader) (t : Token) : Reader :=
  { r.put t with cursor := r.cursor.skip 1 }

def takeMarker? (r : Reader) (t : Token) : Option Reader := do
  let r ← (r.closeBlocks fun _ => true).dropCandidate?
  return { r.put t with cursor := r.cursor.skip 3, keyAllowed := false }

def openFlow? (r : Reader) (t : Token) : Option Reader := do
  let r ← r.markCandidate?
  let r := r.takeIndicator t
  return { r with candidate := none, outer := r.candidate :: r.outer, keyAllowed := true }

def closeFlow? (r : Reader) (t : Token) : Option Reader := do
  let r ← r.dropCandidate?
  let r := r.takeIndicator t
  return { r with
    candidate := r.outer.head?.join, outer := r.outer.tail, keyAllowed := false }

def takeComma? (r : Reader) : Option Reader := do
  let r ← r.dropCandidate?
  return { r.takeIndicator .comma with keyAllowed := true }

def takeItem? (r : Reader) : Option Reader := do
  if !r.inFlow && !r.keyAllowed then none
  let r := r.openBlock r.cursor.column r.tokens.length .blockSequenceStart
  let r ← r.dropCandidate?
  return { r.takeIndicator .item with keyAllowed := true }

def takeKey? (r : Reader) : Option Reader := do
  if !r.inFlow && !r.keyAllowed then none
  let r := r.openBlock r.cursor.column r.tokens.length .blockMappingStart
  let r ← r.dropCandidate?
  return { r.takeIndicator .key with keyAllowed := !r.inFlow }

def takeValue? (r : Reader) : Option Reader :=
  match r.candidate with
  | some k =>
    let r := (r.putAt k.position .key).openBlock k.column k.position .blockMappingStart
    some { r.takeIndicator .value with candidate := none, keyAllowed := false }
  | none =>
    if !r.inFlow && !r.keyAllowed then none
    else
      let r := r.openBlock r.cursor.column r.tokens.length .blockMappingStart
      some { r.takeIndicator .value with keyAllowed := !r.inFlow }

def isNameChar (c : Char) : Bool := c.isAlphanum || c = '_' || c = '-'

def takeName? (r : Reader) (token : String → Token) : Option Reader := do
  let r ← r.markCandidate?
  let (name, c) := (r.cursor.skip 1).takeWhile isNameChar
  let ended := endsWord c.rest || c.rest.head?.any ("?:,]\x7d%@\x60".toList.contains ·)
  if name.isEmpty || !ended then none
  return { r.put (token (String.ofList name)) with cursor := c, keyAllowed := false }

def tagText? (withBrackets : Bool) (cs : List Char) : Option (List Char × Nat) :=
  let isPart (c : Char) : Bool :=
    isNameChar c || (";/?:@&=+$.!~*'()%".toList.contains c) ||
      (withBrackets && (",[]".toList.contains c))
  let taken := cs.takeWhile isPart
  if taken.isEmpty then none else some (taken, taken.length)

def handleLength (cs : List Char) : Option Nat :=
  match cs with
  | '!' :: rest =>
    let name := rest.takeWhile isNameChar
    if (rest.drop name.length).head? = some '!' then some (name.length + 2) else none
  | _ => none

def readTag? (cs : List Char) : Option (String × String × Nat) :=
  match cs with
  | '!' :: '<' :: rest => do
    let (text, n) ← tagText? true rest
    if (rest.drop n).head? ≠ some '>' then none
    return ("", String.ofList text, n + 3)
  | _ =>
    match handleLength cs with
    | some h => do
      let (text, n) ← tagText? false (cs.drop h)
      return (String.ofList (cs.take h), String.ofList text, h + n)
    | none =>
      match tagText? false (cs.drop 1) with
      | some (text, n) => some ("!", String.ofList text, n + 1)
      | none => some ("", "!", 1)

def takeTag? (r : Reader) : Option Reader := do
  let r ← r.markCandidate?
  let (handle, ending, n) ← readTag? r.cursor.rest
  let c := r.cursor.skip n
  if !(endsWord c.rest || (r.inFlow && c.rest.head? = some ',')) then none
  return { r.put (.tag handle ending) with cursor := c, keyAllowed := false }

def readVersion? (cs : List Char) : Option (Nat × Nat × Nat) :=
  let major := cs.takeWhile Char.isDigit
  match cs.drop major.length with
  | '.' :: rest =>
    let minor := rest.takeWhile Char.isDigit
    if major.isEmpty || minor.isEmpty then none
    else
      some (Decimal.natOfDigits major, Decimal.natOfDigits minor,
        major.length + 1 + minor.length)
  | _ => none

def takeDirective? (r : Reader) : Option Reader := do
  let r ← (r.closeBlocks fun _ => true).dropCandidate?
  let (name, c) := (r.cursor.skip 1).takeWhile isNameChar
  if name.isEmpty || !endsWord c.rest then none
  let c := c.skipWhile isSpace
  let (token, n) ←
    match String.ofList name with
    | "YAML" => (readVersion? c.rest).map fun v => (Token.version v.1 v.2.1, v.2.2)
    | "TAG" => do
      let h ← if c.rest.head? = some '!' then some ((handleLength c.rest).getD 1) else none
      let gap := (c.rest.drop h).takeWhile isSpace
      if gap.isEmpty then none
      let (start, n) ← tagText? true (c.rest.drop (h + gap.length))
      if !endsWord (c.rest.drop (h + gap.length + n)) then none
      some (Token.tagShorthand (String.ofList (c.rest.take h)) (String.ofList start),
        h + gap.length + n)
    | _ => none
  let c ← (c.skip n).skipLineEnd?
  return { r.put token with
    cursor := if c.rest.isEmpty then c else c.skipBreak, keyAllowed := false }

def takeBlock? (r : Reader) (style : ScalarStyle) : Option Reader := do
  let r ← r.dropCandidate?
  let (text, c) ← readBlock? (style = .folded) r.indents.head? (r.cursor.skip 1)
  return { r.put (.scalar ⟨String.ofList text, style, none⟩) with
    cursor := c, keyAllowed := true }

def takeQuoted? (r : Reader) (style : ScalarStyle) : Option Reader := do
  let r ← r.markCandidate?
  let (text, c) ← readQuoted? (style = .doubleQuoted) [] (r.cursor.skip 1)
  return { r.put (.scalar ⟨String.ofList text, style, none⟩) with
    cursor := c, keyAllowed := false }

def takePlain? (r : Reader) : Option Reader := do
  let r ← r.markCandidate?
  let indent := r.indents.head?.elim 0 (· + 1)
  let (plain, c) ← readPlain? r.inFlow indent [] ⟨[], []⟩ r.cursor
  return { r.put (.scalar ⟨String.ofList plain.text, .plain, none⟩) with
    cursor := c, keyAllowed := plain.newLine }

def isIndicator (c : Char) : Bool := "-?:,[]\x7b\x7d#&*!|>'\"%@\x60".toList.contains c

def beginsPlain (inFlow : Bool) (c : Char) (rest : List Char) : Bool :=
  !isGap c &&
    (!isIndicator c || (c = '-' && !rest.head?.any isSpace) ||
      (!inFlow && (c = '?' || c = ':') && !endsWord rest))

def skipToToken (r : Reader) : Reader :=
  let isSkipped (c : Char) : Bool := c = ' ' || (c = '\t' && (r.inFlow || !r.keyAllowed))
  let c := (r.cursor.skipWhile isSkipped).skipComment
  match _h : c.rest with
  | [] => { r with cursor := c }
  | x :: _ =>
    if isBreak x then
      if c.skipBreak.rest.length < r.cursor.rest.length then
        skipToToken { r with cursor := c.skipBreak, keyAllowed := r.keyAllowed || !r.inFlow }
      else r
    else { r with cursor := c }
  termination_by r.cursor.rest.length

def takeToken? (r : Reader) (c : Char) (rest : List Char) : Option Reader :=
  if r.cursor.column = 0 && c = '%' then r.takeDirective?
  else if r.cursor.isAtMarker '-' then r.takeMarker? .documentStart
  else if r.cursor.isAtMarker '.' then r.takeMarker? .documentEnd
  else if c = '[' then r.openFlow? .sequenceStart
  else if c = '\x7b' then r.openFlow? .mappingStart
  else if c = ']' then r.closeFlow? .sequenceEnd
  else if c = '\x7d' then r.closeFlow? .mappingEnd
  else if c = ',' then r.takeComma?
  else if c = '-' && endsWord rest then r.takeItem?
  else if c = '?' && (r.inFlow || endsWord rest) then r.takeKey?
  else if c = ':' && (r.inFlow || endsWord rest) then r.takeValue?
  else if c = '*' then r.takeName? .alias
  else if c = '&' then r.takeName? .anchor
  else if c = '!' then r.takeTag?
  else if c = '|' && !r.inFlow then r.takeBlock? .literal
  else if c = '>' && !r.inFlow then r.takeBlock? .folded
  else if c = '\'' then r.takeQuoted? .singleQuoted
  else if c = '"' then r.takeQuoted? .doubleQuoted
  else if beginsPlain r.inFlow c rest then r.takePlain?
  else none

def readAll? (r : Reader) : Option (List Token) :=
  let s := r.skipToToken
  match s.dropStale? with
  | none => none
  | some s =>
    match s.cursor.rest with
    | [] => ((s.closeBlocks fun _ => true).dropCandidate?).map fun s => s.tokens.reverse
    | c :: rest =>
      match (s.closeBlocks fun i => s.cursor.column < i).takeToken? c rest with
      | none => none
      | some t =>
        if t.cursor.rest.length < r.cursor.rest.length then readAll? t else none
  termination_by r.cursor.rest.length

end Reader

def tokens? (text : String) : Option (List Token) :=
  let cs := text.toList
  let r := Reader.start cs
  if !cs.all isAllowed then none
  else if cs.head? = some '\ufeff' then { r with cursor := r.cursor.skip 1 }.readAll?
  else r.readAll?

end Yaml
end ScrapeTelemetry
