import ScrapeTelemetry.CommandLine.Options
import ScrapeTelemetry.Number.Decimal

/-!
# Reading the arguments

Arguments are read from left to right. A value or a file is checked when it is
complete, which shows at the next option or at the end; what is wrong there comes
before any fault that the next option has.
-/

set_option autoImplicit false

namespace ScrapeTelemetry

structure ReplayRequest where
  files : List String
  interval : Option Nat
  node : Option String
  deriving DecidableEq, Repr

structure Request where
  config : Option String
  debug : Bool
  json : Bool
  checkConfig : Bool
  command : Option ReplayRequest
  deriving DecidableEq, Repr

namespace CommandLine

inductive Pending where
  | nothing
  | value (s : Setting) (text : Option String)
  | files (paths : List String)

structure Gathered where
  flags : List Flag := []
  settings : List (Setting × String) := []
  files : List String := []
  pending : Pending := .nothing

def wordOfText? (text : String) : Option Nat :=
  let digits := match text.toList with
    | '+' :: rest => rest
    | all => all
  if digits.isEmpty || !digits.all Char.isDigit then none
  else
    let n := Decimal.natOfDigits digits
    if n < Nat.pow 2 64 then some n else none

def Setting.fault? (s : Setting) (text : String) : Option UsageStop :=
  match s with
  | .config => if text.isEmpty then some .invalidValue else none
  | .interval => if (wordOfText? text).isNone then some .valueValidation else none
  | .node => none

namespace Gathered

def assign (g : Gathered) (s : Setting) (text : String) : Except UsageStop Gathered :=
  if g.settings.any fun e => e.1 = s then .error .argumentConflict
  else
    match s.fault? text with
    | some fault => .error fault
    | none => .ok { g with settings := g.settings ++ [(s, text)] }

def settle (g : Gathered) : Except UsageStop Gathered :=
  let done := { g with pending := .nothing }
  match g.pending with
  | .nothing => .ok g
  | .value _ none => .error .invalidValue
  | .value s (some text) => done.assign s text
  | .files paths =>
    if paths.any String.isEmpty then .error .invalidValue
    else .ok { done with files := g.files ++ paths }

def raise (g : Gathered) (f : Flag) : Except UsageStop Gathered := do
  let g ← g.settle
  match f with
  | .help => .error .displayHelp
  | .version => .error .displayVersion
  | f =>
    if g.flags.contains f then .error .argumentConflict
    else return { g with flags := g.flags ++ [f] }

def begin (g : Gathered) (s : Setting) (attached : Option String) :
    Except UsageStop Gathered := do
  let g ← g.settle
  match attached with
  | some text => g.assign s text
  | none => return { g with pending := .value s none }

def takeLong (g : Gathered) (level : Level) (text : List Char) : Except UsageStop Gathered :=
  let name := text.takeWhile (· ≠ '=')
  let attached :=
    match text.drop name.length with
    | _ :: value => some (String.ofList value)
    | [] => none
  match level.long.lookup (String.ofList name), attached with
  | none, _ => .error .unknownArgument
  | some (.flag _), some _ => .error .tooManyValues
  | some (.flag f), none => g.raise f
  | some (.setting s), attached => g.begin s attached

def takeShort (g : Gathered) (level : Level) : List Char → Except UsageStop Gathered
  | [] => .ok g
  | c :: rest =>
    match level.short.lookup c with
    | none => .error .unknownArgument
    | some (.flag f) => do
      let g ← g.raise f
      g.takeShort level rest
    | some (.setting s) =>
      match rest with
      | [] => g.begin s none
      | '=' :: value => g.begin s (some (String.ofList value))
      | value => g.begin s (some (String.ofList value))

def takeFile (g : Gathered) (path : String) : Except UsageStop Gathered :=
  match g.pending with
  | .files paths => .ok { g with pending := .files (paths ++ [path]) }
  | _ => do
    let g ← g.settle
    return { g with pending := .files [path] }

end Gathered

def Pending.awaits : Pending → Option Setting
  | value s none => some s
  | _ => none

def readLevel (level : Level) (g : Gathered) (onlyFiles : Bool) :
    List String → Except UsageStop (Gathered × Option (String × List String))
  | [] => .ok (g, none)
  | arg :: rest =>
    let positional : Except UsageStop Gathered :=
      if level.commands.isEmpty then g.takeFile arg
      else if onlyFiles && level.commands.contains arg then .error .unknownArgument
      else .error .invalidSubcommand
    let goOn (g : Except UsageStop Gathered) :=
      g.bind fun g => readLevel level g onlyFiles rest
    if onlyFiles then goOn positional
    else if g.pending.awaits.isNone && level.commands.contains arg then .ok (g, some (arg, rest))
    else
      match arg.toList with
      | ['-', '-'] => readLevel level g true rest
      | '-' :: '-' :: text => goOn (g.takeLong level text)
      | '-' :: c :: text => goOn (g.takeShort level (c :: text))
      | _ =>
        match g.pending.awaits with
        | some s => goOn (.ok { g with pending := .value s (some arg) })
        | none => goOn positional

def Gathered.setting? (g : Gathered) (s : Setting) : Option String := g.settings.lookup s

def helpStop (level : Level) : List String → UsageStop
  | [] => .displayHelp
  | [name] => if level.commands.contains name then .displayHelp else .invalidSubcommand
  | _ => .invalidSubcommand

def readReplay (args : List String) : Except UsageStop Gathered := do
  let (g, _) ← readLevel replayLevel {} false args
  let g ← g.settle
  if g.files.isEmpty then .error .missingRequiredArgument else return g

def requestOf (program command : Gathered) (asked : Option ReplayRequest) : Request :=
  let has (f : Flag) : Bool := program.flags.contains f || command.flags.contains f
  { config := (command.setting? .config).or (program.setting? .config)
    debug := has .debug
    json := has .json
    checkConfig := has .checkConfig
    command := asked }

def readRequest (args : List String) : Except UsageStop Request := do
  let (program, follows) ← readLevel programLevel {} false args
  match follows with
  | none => return requestOf (← program.settle) {} none
  | some ("help", rest) => .error (helpStop programLevel rest)
  | some (_, rest) =>
    let command ← readReplay rest
    let program ← program.settle
    return requestOf program command (some
      { files := command.files
        interval := (command.setting? .interval).bind wordOfText?
        node := command.setting? .node })

end CommandLine
end ScrapeTelemetry
