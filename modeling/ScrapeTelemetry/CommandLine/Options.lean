/-!
# Options of the command line

The program has options of its own and one command. Some options may stand before
or behind the name of the command.
-/

set_option autoImplicit false

namespace ScrapeTelemetry
namespace CommandLine

inductive Flag where
  | debug
  | json
  | checkConfig
  | help
  | version
  deriving DecidableEq, Repr

inductive Setting where
  | config
  | interval
  | node
  deriving DecidableEq, Repr

inductive CommandOption where
  | flag (f : Flag)
  | setting (s : Setting)
  deriving DecidableEq, Repr

inductive UsageStop where
  | unknownArgument
  | invalidSubcommand
  | missingRequiredArgument
  | invalidValue
  | valueValidation
  | argumentConflict
  | tooManyValues
  | displayHelp
  | displayVersion
  deriving DecidableEq, Repr

structure Level where
  long : List (String × CommandOption)
  short : List (Char × CommandOption)
  commands : List String

def sharedLong : List (String × CommandOption) :=
  [("config", .setting .config), ("debug", .flag .debug), ("json", .flag .json),
   ("help", .flag .help)]

def sharedShort : List (Char × CommandOption) :=
  [('c', .setting .config), ('d', .flag .debug), ('h', .flag .help)]

def programLevel : Level where
  long := sharedLong ++ [("check-config", .flag .checkConfig), ("version", .flag .version)]
  short := sharedShort ++ [('V', .flag .version)]
  commands := ["replay", "help"]

def replayLevel : Level where
  long := sharedLong ++ [("interval", .setting .interval), ("node", .setting .node)]
  short := sharedShort
  commands := []

end CommandLine
end ScrapeTelemetry
