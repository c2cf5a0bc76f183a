import ScrapeTelemetry.Clock.Duration
import ScrapeTelemetry.Failure
import ScrapeTelemetry.Pattern.Reader

/-!
# Settings

What a run can be told, with the defaults. Settings are checked before use; the
first fault found is the one reported.
-/

set_option autoImplicit false

namespace ScrapeTelemetry

inductive Verbosity where
  | trace
  | debug
  | info
  | warn
  | error
  deriving DecidableEq, Repr

def Verbosity.word : Verbosity → String
  | trace => "trace"
  | debug => "debug"
  | info => "info"
  | warn => "warn"
  | error => "error"

def Verbosity.ofWord? (s : String) : Option Verbosity :=
  [Verbosity.trace, .debug, .info, .warn, .error].find? fun l => l.word == s

structure TimingSettings where
  scrapeInterval : Duration := .ofSeconds 15
  defaultWindow : Duration := .ofSeconds 300
  deriving DecidableEq, Repr

structure FilterSettings where
  deniedNamespaces : List String := ["kube-system", "linkerd", "linkerd-viz"]
  adminPorts : List Nat := [4191, 9990, 9901]
  probePaths : List String := ["^/(healthz|readyz|livez|ping|health)\\b"]
  dropInternalIngress : Bool := true
  deriving DecidableEq, Repr

structure LoggingSettings where
  level : Verbosity := .info
  structured : Bool := false
  deriving DecidableEq, Repr

structure Settings where
  timing : TimingSettings := {}
  filter : FilterSettings := {}
  ringCapacity : Nat := 60
  logging : LoggingSettings := {}
  debug : Bool := false
  deriving DecidableEq, Repr

namespace Settings

def fault? (c : Settings) : Option SettingsFault :=
  if c.timing.scrapeInterval.isZero then some .zeroScrapeInterval
  else if c.timing.defaultWindow.isZero then some .zeroDefaultWindow
  else if c.ringCapacity = 0 then some .zeroRingCapacity
  else
    match c.filter.probePaths.find? fun p => (Pattern.ofText? p).isNone with
    | some p => some (.probePattern p)
    | none => if c.filter.adminPorts.contains 0 then some .adminPortZero else none

def checked (c : Settings) : Except Failure Settings :=
  match c.fault? with
  | some fault => .error (.settings fault)
  | none => .ok c

end Settings
end ScrapeTelemetry
