import ScrapeTelemetry.Clock.DurationText
import ScrapeTelemetry.Settings.Basic
import ScrapeTelemetry.Yaml.Node

/-!
# Settings in a file

Settings are read from a document with a section for each part of the program.
What is left out has its default, and names that mean nothing are passed over. A
name with a meaning is given once at most.
-/

set_option autoImplicit false

namespace ScrapeTelemetry

open Yaml

namespace Yaml.Scalar

def isNothing (s : Scalar) : Bool := s.style = .plain && s.text.isEmpty

def isTyped (s : Scalar) (tag : String) : Bool :=
  s.style = .plain || (s.style = .literal && s.tag = some tag)

def wholeOfDigits? (base : Nat) (digits : List Char) : Option Nat := do
  if digits.isEmpty then none
  let values ← digits.mapM Json.hexValue?
  if values.all (· < base) then some (values.foldl (fun n d => base * n + d) 0) else none

def wholeOfText? (text : String) : Option Nat :=
  let digits := match text.toList with
    | '+' :: rest => rest
    | all => all
  match digits with
  | '0' :: 'x' :: rest => wholeOfDigits? 16 rest
  | '0' :: 'o' :: rest => wholeOfDigits? 8 rest
  | '0' :: 'b' :: rest => wholeOfDigits? 2 rest
  | '0' :: _ :: _ => none
  | all => wholeOfDigits? 10 all

def toWhole? (limit : Nat) (s : Scalar) : Option Nat := do
  if !s.isTyped "tag:yaml.org,2002:int" then none
  let n ← wholeOfText? s.text
  if n ≤ limit then some n else none

def toBool? (s : Scalar) : Option Bool :=
  if !s.isTyped "tag:yaml.org,2002:bool" then none
  else if ["true", "True", "TRUE"].contains s.text then some true
  else if ["false", "False", "FALSE"].contains s.text then some false
  else none

def toLevel? (s : Scalar) : Option Verbosity :=
  match s.tag.map String.toList with
  | some ('!' :: c :: name) =>
    if s.style = .plain && ["", "~", "null", "Null", "NULL"].contains s.text then
      Verbosity.ofWord? (String.ofList (c :: name))
    else none
  | _ => Verbosity.ofWord? s.text

end Yaml.Scalar

namespace Yaml.Node

def toScalar? : Node → Option Scalar
  | .scalar s => some s
  | _ => none

def toItems? : Node → Option (List Node)
  | .sequence items => some items
  | .scalar s => if s.isNothing then some [] else none
  | .mapping _ => none

def toSection? : Node → Option (List (String × Node))
  | .mapping entries => entries.mapM fun e => e.1.toScalar?.map fun s => (s.text, e.2)
  | .scalar s => if s.isNothing then some [] else none
  | .sequence _ => none

def toText? (n : Node) : Option String := n.toScalar?.map Scalar.text

def toTexts? (n : Node) : Option (List String) := n.toItems?.bind fun l => l.mapM toText?

def toDuration? (n : Node) : Option Duration := n.toText?.bind Duration.ofText?

end Yaml.Node

def setting? {β : Type} (entries : List (String × Node)) (name : String) (otherwise : β)
    (read? : Node → Option β) : Option β :=
  match entries.filter fun e => e.1 == name with
  | [] => some otherwise
  | [e] => read? e.2
  | _ => none

def TimingSettings.ofNode? (n : Node) : Option TimingSettings := do
  let d : TimingSettings := {}
  let s ← n.toSection?
  return {
    scrapeInterval := ← setting? s "scrape_interval" d.scrapeInterval Node.toDuration?
    defaultWindow := ← setting? s "default_window" d.defaultWindow Node.toDuration? }

def FilterSettings.ofNode? (n : Node) : Option FilterSettings := do
  let d : FilterSettings := {}
  let s ← n.toSection?
  let port (n : Node) : Option Nat := n.toScalar?.bind (Scalar.toWhole? 65535)
  return {
    deniedNamespaces := ← setting? s "denied_namespaces" d.deniedNamespaces Node.toTexts?
    adminPorts := ← setting? s "admin_ports" d.adminPorts fun n =>
      n.toItems?.bind fun l => l.mapM port
    probePaths := ← setting? s "probe_paths" d.probePaths Node.toTexts?
    dropInternalIngress := ←
      setting? s "drop_internal_ingress_services" d.dropInternalIngress fun n =>
        n.toScalar?.bind Scalar.toBool? }

def LoggingSettings.ofNode? (n : Node) : Option LoggingSettings := do
  let d : LoggingSettings := {}
  let s ← n.toSection?
  return {
    level := ← setting? s "level" d.level fun n => n.toScalar?.bind Scalar.toLevel?
    structured := ← setting? s "structured" d.structured fun n =>
      n.toScalar?.bind Scalar.toBool? }

def ringCapacityOf? (n : Node) : Option Nat := do
  setting? (← n.toSection?) "ring_capacity" ({} : Settings).ringCapacity fun n =>
    n.toScalar?.bind (Scalar.toWhole? (Nat.pow 2 64 - 1))

namespace Settings

def ofNode? (n : Node) : Option Settings := do
  let d : Settings := {}
  let s ← n.toSection?
  return {
    timing := ← setting? s "engine" d.timing TimingSettings.ofNode?
    filter := ← setting? s "filter" d.filter FilterSettings.ofNode?
    ringCapacity := ← setting? s "concentrator" d.ringCapacity ringCapacityOf?
    logging := ← setting? s "logging" d.logging LoggingSettings.ofNode? }

def ofYaml (text : String) : Except Failure Settings :=
  let read? : Option Settings := do
    match ← Yaml.read? text with
    | .nothing => return {}
    | .document root => ofNode? root
  match read? with
  | some c => .ok c
  | none => .error (.document "the document holds no settings")

end Settings
end ScrapeTelemetry
