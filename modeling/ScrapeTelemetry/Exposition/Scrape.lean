import ScrapeTelemetry.Exposition.Line
import ScrapeTelemetry.Exposition.Sample
import ScrapeTelemetry.Failure
import ScrapeTelemetry.Number.Scalar
import ScrapeTelemetry.Text.Affix

/-!
# Scrape bodies

A body is read line by line. Comments may declare the type of a family, which
decides the kind of the samples after it. A malformed line is counted and
skipped; it never affects another line.
-/

set_option autoImplicit false

namespace ScrapeTelemetry

inductive DeclaredType where
  | counter
  | gauge
  | histogram
  | summary
  | untyped
  deriving DecidableEq, Repr

abbrev Declarations := KeyMap String DeclaredType

def familyWords : List (String × DeclaredType) :=
  [("counter", .counter), ("gauge", .gauge), ("histogram", .histogram),
   ("summary", .summary), ("untyped", .untyped)]

def readDeclaration? (line : List Char) : Option (String × DeclaredType) := do
  let afterHash ← dropStart? ['#'] line
  let atKeyword ← skipSeparators1? afterHash
  let afterKeyword ← dropStart? "TYPE".toList atKeyword
  let atName ← skipSeparators1? afterKeyword
  let (name, afterName) ← readMetricName? atName
  let atType ← skipSeparators1? afterName
  let entry ← familyWords.find? fun e => e.1.toList.isPrefixOf atType
  return (String.ofList name, entry.2)

def kindWords : List (String × SampleKind) :=
  [("_bucket", .histogramBucket), ("_sum", .histogramSum), ("_count", .histogramCount)]

/-- The kind of a sample. A declaration of the name itself decides first. Then a
histogram ending counts if the rest of the name is declared a histogram, or is
not declared at all; an undeclared `_bucket` also needs the label `le`. -/
def kindOf (declared : Declarations) (name : String) (labels : Labels) : SampleKind :=
  match declared.find? name with
  | some .gauge => .gauge
  | some _ => .counter
  | none =>
    let ofEnding (e : String × SampleKind) : Option SampleKind :=
      (dropEnding? e.1.toList name.toList).bind fun base =>
        match declared.find? (String.ofList base) with
        | some .histogram => some e.2
        | some _ => some .counter
        | none =>
          if e.2 ≠ .histogramBucket || labels.contains "le" then some e.2 else none
    (kindWords.findSome? ofEnding).getD .counter

namespace SampleLine

def labelMap (l : SampleLine) : Labels :=
  KeyMap.ofList (l.labels.map fun p => (String.ofList p.1, String.ofList p.2))

def toSample (declared : Declarations) (l : SampleLine) : Sample Float where
  name := String.ofList l.name
  kind := kindOf declared (String.ofList l.name) l.labelMap
  labels := l.labelMap
  value := l.value.toFloat

end SampleLine

def isSilent (line : List Char) : Bool := line.isEmpty || line.head? = some '#'

def readSample (text : String) : Except Failure (Sample Float) :=
  let line := trim text.toList
  if isSilent line then
    .error (.sample (.notASample (String.ofList line)))
  else
    match SampleLine.read? line with
    | none => .error (.line (.unreadable (String.ofList line)))
    | some (l, rest) =>
      if (trim rest).isEmpty then .ok (l.toSample .empty)
      else .error (.line (.trailing (String.ofList rest)))

structure Scrape where
  samples : List (Sample Float)
  skipped : Nat

namespace Scrape

def ofLines (declared : Declarations) : List (List Char) → Scrape
  | [] => ⟨[], 0⟩
  | text :: more =>
    let line := trim text
    if line.isEmpty then ofLines declared more
    else if line.head? = some '#' then
      match readDeclaration? line with
      | some (name, family) => ofLines (declared.insert name family) more
      | none => ofLines declared more
    else
      let batch := ofLines declared more
      match SampleLine.read? line with
      | some (l, rest) =>
        if (trim rest).isEmpty then
          ⟨l.toSample declared :: batch.samples, batch.skipped⟩
        else ⟨batch.samples, batch.skipped + 1⟩
      | none => ⟨batch.samples, batch.skipped + 1⟩

def read (text : String) : Scrape :=
  ofLines .empty (splitLines text.toList)

end Scrape
end ScrapeTelemetry
