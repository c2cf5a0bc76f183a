import ScrapeTelemetry.Json.Value
import ScrapeTelemetry.Number.Shortest

/-!
# Writing JSON

A document is written over several lines, indented by two spaces a level. A
number always shows a point or an exponent unless it is whole by type.
-/

set_option autoImplicit false

namespace ScrapeTelemetry
namespace Json

def zeros (n : Nat) : List Char := List.replicate n '0'

def decimalText (digits : List Char) (power : Int) : List Char :=
  let point : Int := digits.length + power
  if 0 ≤ power ∧ point ≤ 16 then digits ++ zeros power.toNat ++ ['.', '0']
  else if 0 < point ∧ point ≤ 16 then
    digits.take point.toNat ++ '.' :: digits.drop point.toNat
  else if -5 < point ∧ point ≤ 0 then '0' :: '.' :: zeros (-point).toNat ++ digits
  else
    let fraction := if digits.length ≤ 1 then [] else '.' :: digits.drop 1
    digits.take 1 ++ fraction ++ 'e' :: (toString (point - 1)).toList

def floatText (x : Float) : String :=
  let sign := if x.toBits.toNat < Nat.pow 2 63 then "" else "-"
  if x == 0 then sign ++ "0.0"
  else
    let (d, power) := Shortest.digits x
    sign ++ String.ofList (decimalText (toString d).toList power)

def controlCode (c : Char) : List Char :=
  let digits := Nat.toDigits 16 c.toNat
  zeros (2 - digits.length) ++ digits

def escapeChar (c : Char) : List Char :=
  let short : List (Char × Char) :=
    [('"', '"'), ('\\', '\\'), ('\n', 'n'), ('\r', 'r'), ('\t', 't'), ('\x08', 'b'),
     ('\x0c', 'f')]
  match short.lookup c with
  | some e => ['\\', e]
  | none => if c.toNat < 0x20 then '\\' :: 'u' :: '0' :: '0' :: controlCode c else [c]

def quoted (s : String) : String :=
  "\"" ++ String.ofList (s.toList.flatMap escapeChar) ++ "\""

def newLine (level : Nat) : String := "\n" ++ String.ofList (List.replicate (2 * level) ' ')

def enclose (opening closing : String) (level : Nat) (parts : List String) : String :=
  if parts.isEmpty then opening ++ closing
  else
    opening ++ newLine (level + 1) ++ ("," ++ newLine (level + 1)).intercalate parts ++
      newLine level ++ closing

mutual

def pretty (level : Nat) : Json → String
  | null => "null"
  | bool b => if b then "true" else "false"
  | integer n => toString n
  | float x => if x.isFinite then floatText x else "null"
  | text s => quoted s
  | list items => enclose "[" "]" level (prettyItems (level + 1) items)
  | object fields => enclose "\x7b" "\x7d" level (prettyFields (level + 1) fields)

def prettyItems (level : Nat) : List Json → List String
  | [] => []
  | j :: rest => pretty level j :: prettyItems level rest

def prettyFields (level : Nat) : List (String × Json) → List String
  | [] => []
  | (name, j) :: rest => (quoted name ++ ": " ++ pretty level j) :: prettyFields level rest

end

def print (j : Json) : String := pretty 0 j

end Json
end ScrapeTelemetry
