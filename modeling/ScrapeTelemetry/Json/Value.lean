import ScrapeTelemetry.Number.Scalar

/-!
# JSON values

Whole numbers and floating-point numbers are told apart, and the fields of an
object keep their order.
-/

set_option autoImplicit false

namespace ScrapeTelemetry

inductive Json where
  | null
  | bool (b : Bool)
  | integer (n : Int)
  | float (x : Float)
  | text (s : String)
  | list (items : List Json)
  | object (fields : List (String × Json))
  deriving Inhabited

namespace Json

def ofFloat (x : Float) : Json := if x.isFinite then .float x else .null

def ofOption : Option Json → Json
  | some j => j
  | none => .null

def field? (j : Json) (name : String) : Option Json :=
  match j with
  | .object fields => (fields.reverse.find? fun e => e.1 == name).map Prod.snd
  | _ => none

def toFloat? : Json → Option Float
  | .integer n => some (Scalar.ofInt n)
  | .float x => some x
  | _ => none

def toInt? : Json → Option Int
  | .integer n => some n
  | _ => none

def toText? : Json → Option String
  | .text s => some s
  | _ => none

def toBool? : Json → Option Bool
  | .bool b => some b
  | _ => none

def toList? : Json → Option (List Json)
  | .list items => some items
  | _ => none

def toObject? : Json → Option (List (String × Json))
  | .object fields => some fields
  | _ => none

end Json
end ScrapeTelemetry
