import ScrapeTelemetry.KeyMap

/-!
# Observed samples

One observed metric line: a name, what kind of series it belongs to, its labels
and the value.
-/

set_option autoImplicit false

namespace ScrapeTelemetry

abbrev Labels := KeyMap String String

inductive SampleKind where
  | counter
  | gauge
  | histogramBucket
  | histogramSum
  | histogramCount
  deriving DecidableEq, Repr

structure Sample (α : Type) where
  name : String
  kind : SampleKind
  labels : Labels
  value : α

namespace Sample

variable {α : Type}

def label? (s : Sample α) (key : String) : Option String :=
  match s.labels.find? key with
  | some v => if v.isEmpty then none else some v
  | none => none

def anyLabel? (s : Sample α) (keys : List String) : Option String :=
  keys.findSome? s.label?

def labelOrEmpty (s : Sample α) (key : String) : String := (s.label? key).getD ""

end Sample
end ScrapeTelemetry
