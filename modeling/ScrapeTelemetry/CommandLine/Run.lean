import ScrapeTelemetry.CommandLine.Arguments
import ScrapeTelemetry.Json.Printer
import ScrapeTelemetry.Report.Encoding
import ScrapeTelemetry.Settings.Reading
import ScrapeTelemetry.Text.Quoted

/-!
# A run of the program

From the arguments and the files that they name to what is printed and to the exit
code. Settings come from the file that is named, then from the arguments.
-/

set_option autoImplicit false

namespace ScrapeTelemetry

namespace Request

def fileSettings (r : Request) (files : Files) : Except Failure Settings :=
  match r.config with
  | none => .ok {}
  | some path =>
    match files path with
    | .missing => .error (.lookup (.configFile (quotedText path)))
    | content =>
      match content.read with
      | .ok text => Settings.ofYaml text
      | .error reason => .error (.settings (.unreadableFile (quotedText path) reason))

def override (r : Request) (c : Settings) : Settings :=
  let interval? := r.command.bind ReplayRequest.interval
  { c with
    timing :=
      { c.timing with
        scrapeInterval := interval?.elim c.timing.scrapeInterval Duration.ofSeconds }
    debug := r.debug }

def settings (r : Request) (files : Files) : Except Failure Settings := do
  (r.override (← r.fileSettings files)).checked

end Request

inductive RunOutcome where
  | usage (stop : CommandLine.UsageStop)
  | failed (fault : Failure)
  | offCalendar
  | checked (config : Settings)
  | replayed (report : ReplayRecord)

namespace RunOutcome

def exitCode : RunOutcome → Nat
  | usage .displayHelp | usage .displayVersion | checked _ | replayed _ => 0
  | failed _ => 1
  | usage _ => 2
  | offCalendar => 101

def programName : String := "kubepulse"

def versionText : String := programName ++ " 0.1.0"

def helpText : String :=
  "Kubernetes telemetry delta and aggregation engine\n\nUsage: " ++ programName ++
    " [OPTIONS] [COMMAND]\n\nCommands:\n" ++
    "  replay  Replay exposition dumps as successive scrape cycles\n" ++
    "  help    Print this message or the help of the given subcommand(s)\n\nOptions:\n" ++
    "  -c, --config <CONFIG>  Configuration file path\n" ++
    "  -d, --debug            Enable debug logging\n" ++
    "      --json             Structured log output with targets and line numbers\n" ++
    "      --check-config     Validate configuration and exit\n" ++
    "  -h, --help             Print help\n" ++
    "  -V, --version          Print version"

def checkLines (c : Settings) : List String :=
  ["Configuration is valid!",
   "  Scrape interval: " ++ c.timing.scrapeInterval.toDecimalText,
   "  Default window: " ++ c.timing.defaultWindow.toDecimalText,
   "  Ring capacity: " ++ toString c.ringCapacity ++ " minutes",
   "  Denied namespaces: " ++ ", ".intercalate c.filter.deniedNamespaces]

def printed : RunOutcome → List String
  | usage .displayHelp => [helpText]
  | usage .displayVersion => [versionText]
  | checked c => checkLines c
  | replayed r => [r.toJson.print]
  | _ => []

end RunOutcome

def Request.run (r : Request) (files : Files) (now : Instant) : RunOutcome :=
  match r.settings files with
  | .error f => .failed f
  | .ok c =>
    if r.checkConfig then .checked c
    else
      match r.command with
      | none => .failed (.settings .noCommand)
      | some command =>
        match replay c files command.files command.node now with
        | .ok report => .replayed report
        | .error (.failed f) => .failed f
        | .error .offCalendar => .offCalendar

def Request.paths (r : Request) : List String :=
  r.config.toList ++ r.command.elim [] ReplayRequest.files

def runArguments (args : List String) (files : Files) (now : Instant) : RunOutcome :=
  match CommandLine.readRequest args with
  | .ok r => r.run files now
  | .error stop => .usage stop

end ScrapeTelemetry
