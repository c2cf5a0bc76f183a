import ScrapeTelemetry.Yaml.Token

/-!
# YAML documents

A document is a tree of scalars, sequences and mappings. An alias stands for the
node that its anchor names; inside that node, which is not known yet, it stands
for an empty mapping. What the grammar lets out is an empty plain scalar.
-/

set_option autoImplicit false

namespace ScrapeTelemetry
namespace Yaml

inductive Node where
  | scalar (s : Scalar)
  | sequence (items : List Node)
  | mapping (entries : List (Node × Node))
  deriving Inhabited

namespace Node

def empty : Node := .scalar ⟨"", .plain, none⟩

def withTag (tag : Option String) : Node → Node
  | .scalar s => .scalar { s with tag := tag }
  | n => n

end Node

structure Unread where
  tokens : List Token
  anchors : List (String × Node)
  shorthands : List (String × String)

abbrev Reading := StateT Unread Option

namespace Reading

def peek : Reading (Option Token) := do return (← get).tokens.head?

def drop : Reading Unit := modify fun u => { u with tokens := u.tokens.tail }

def skips (t : Token) : Reading Bool := do
  if (← peek) = some t then
    drop
    return true
  else return false

def nextIsAny (ts : List Token) : Reading Bool := do return (← peek).all ts.contains

def name (anchor : Option String) (n : Node) : Reading Unit :=
  match anchor with
  | some a => modify fun u => { u with anchors := (a, n) :: u.anchors }
  | none => pure ()

def named (a : String) : Reading Node := do
  match (← get).anchors.lookup a with
  | some n => return n
  | none => failure

def fullTag (handle ending : String) : Reading String := do
  if handle.isEmpty then return ending
  match (← get).shorthands.lookup handle with
  | some start => return start ++ ending
  | none => failure

def properties : Reading (Option String × Option String) := do
  match ← peek with
  | some (.anchor a) =>
    drop
    match ← peek with
    | some (.tag h e) =>
      drop
      return (some a, some (← fullTag h e))
    | _ => return (some a, none)
  | some (.tag h e) =>
    drop
    match ← peek with
    | some (.anchor a) =>
      drop
      return (some a, some (← fullTag h e))
    | _ => return (none, some (← fullTag h e))
  | _ => return (none, none)

end Reading

open Reading

mutual

def readNode (fuel : Nat) (inBlock atKey : Bool) : Reading Node :=
  match fuel with
  | 0 => failure
  | fuel + 1 => do
    match ← peek with
    | some (.alias a) =>
      drop
      named a
    | _ =>
      let (anchor, tag) ← properties
      let nothing : Reading Node :=
        if anchor.isSome || tag.isSome then return Node.empty.withTag tag else failure
      name anchor (.mapping [])
      let n ← match ← peek with
        | some (.scalar s) =>
          drop
          pure (Node.scalar { s with tag := tag })
        | some .sequenceStart =>
          drop
          pure (Node.sequence (← readFlowItems fuel true))
        | some .mappingStart =>
          drop
          pure (Node.mapping (← readFlowEntries fuel true))
        | some .item =>
          if atKey then pure (Node.sequence (← readLooseItems fuel)) else nothing
        | some .blockSequenceStart =>
          if inBlock then
            drop
            pure (Node.sequence (← readItems fuel))
          else nothing
        | some .blockMappingStart =>
          if inBlock then
            drop
            pure (Node.mapping (← readEntries fuel))
          else nothing
        | _ => nothing
      name anchor n
      return n

def readNodeUnless (fuel : Nat) (inBlock atKey : Bool) (ends : List Token) : Reading Node :=
  match fuel with
  | 0 => failure
  | fuel + 1 => do
    if ← nextIsAny ends then return .empty else readNode fuel inBlock atKey

def readItems (fuel : Nat) : Reading (List Node) :=
  match fuel with
  | 0 => failure
  | fuel + 1 => do
    if ← skips .item then
      let n ← readNodeUnless fuel true false [.item, .blockEnd]
      return n :: (← readItems fuel)
    else if ← skips .blockEnd then return []
    else failure

def readLooseItems (fuel : Nat) : Reading (List Node) :=
  match fuel with
  | 0 => failure
  | fuel + 1 => do
    if ← skips .item then
      let n ← readNodeUnless fuel true false [.item, .key, .value, .blockEnd]
      return n :: (← readLooseItems fuel)
    else return []

def readEntries (fuel : Nat) : Reading (List (Node × Node)) :=
  match fuel with
  | 0 => failure
  | fuel + 1 => do
    let ends := [Token.key, .value, .blockEnd]
    if ← skips .key then
      let k ← readNodeUnless fuel true true ends
      let v ← if ← skips .value then readNodeUnless fuel true true ends else pure .empty
      return (k, v) :: (← readEntries fuel)
    else if ← skips .blockEnd then return []
    else failure

def readFlowItems (fuel : Nat) (first : Bool) : Reading (List Node) :=
  match fuel with
  | 0 => failure
  | fuel + 1 => do
    if ← skips .sequenceEnd then return []
    if !first then
      if !(← skips .comma) then failure
    if ← skips .key then
      let k ← readNode fuel false false
      let v ←
        if ← skips .value then readNodeUnless fuel false false [.comma, .sequenceEnd]
        else pure .empty
      return .mapping [(k, v)] :: (← readFlowItems fuel false)
    else if ← skips .sequenceEnd then return []
    else
      let n ← readNode fuel false false
      return n :: (← readFlowItems fuel false)

def readFlowEntries (fuel : Nat) (first : Bool) : Reading (List (Node × Node)) :=
  match fuel with
  | 0 => failure
  | fuel + 1 => do
    if ← skips .mappingEnd then return []
    if !first then
      if !(← skips .comma) then failure
    if ← skips .key then
      let k ← readNodeUnless fuel false false [.value, .comma, .mappingEnd]
      let v ←
        if ← skips .value then readNodeUnless fuel false false [.comma, .mappingEnd]
        else pure .empty
      return (k, v) :: (← readFlowEntries fuel false)
    else if ← skips .mappingEnd then return []
    else
      let k ← readNode fuel false false
      return (k, .empty) :: (← readFlowEntries fuel false)

end

def standardShorthands : List (String × String) := [("!", "!"), ("!!", "tag:yaml.org,2002:")]

def readDirectives (versionSeen : Bool) (handles : List String) : List Token → Reading Bool
  | .version major minor :: rest => do
    if versionSeen || major ≠ 1 || !(minor = 1 || minor = 2) then failure
    drop
    readDirectives true handles rest
  | .tagShorthand handle start :: rest => do
    if handles.contains handle then failure
    drop
    modify fun u => { u with shorthands := (handle, start) :: u.shorthands }
    readDirectives versionSeen (handle :: handles) rest
  | _ => return versionSeen || !handles.isEmpty

def readDocument (fuel : Nat) : Reading Node := do
  let directed ← readDirectives false [] (← get).tokens
  let marked ← skips .documentStart
  if directed && !marked then failure
  let bare := match ← peek with
    | none | some (.version _ _) | some (.tagShorthand _ _) | some .documentStart
    | some .documentEnd => true
    | _ => false
  if marked && bare then return .empty else readNode fuel true false

def skipEnds (u : Unread) : Unread :=
  { u with tokens := u.tokens.dropWhile (· = .documentEnd) }

inductive Content where
  | nothing
  | document (root : Node)

def read? (text : String) : Option Content := do
  let ts ← tokens? text
  if ts.isEmpty then return .nothing
  let (root, left) ← (readDocument (4 * ts.length + 4)).run ⟨ts, [], standardShorthands⟩
  if (skipEnds left).tokens.isEmpty then return .document root else none

end Yaml
end ScrapeTelemetry
