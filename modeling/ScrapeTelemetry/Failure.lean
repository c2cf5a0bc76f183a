/-!
# What can go wrong

A failure is its cause. The wording, the category and whether the next cycle may
try again are functions of the cause.
-/

set_option autoImplicit false

namespace ScrapeTelemetry

inductive SettingsFault where
  | zeroScrapeInterval
  | zeroDefaultWindow
  | zeroRingCapacity
  | probePattern (pattern : String)
  | adminPortZero
  | intervalOutOfRange
  | unreadableFile (path reason : String)
  | noCommand
  | described (text : String)
  deriving DecidableEq, Repr

inductive LineFault where
  | unreadable (line : String)
  | trailing (rest : String)
  | described (text : String)
  deriving DecidableEq, Repr

inductive SampleFault where
  | notASample (line : String)
  | described (text : String)
  deriving DecidableEq, Repr

inductive LookupFault where
  | configFile (path : String)
  | described (text : String)
  deriving DecidableEq, Repr

inductive Failure where
  | settings (fault : SettingsFault)
  | line (fault : LineFault)
  | sample (fault : SampleFault)
  | lookup (fault : LookupFault)
  | access (text : String)
  | report (text : String)
  | document (text : String)
  | pattern (text : String)
  deriving DecidableEq, Repr

def SettingsFault.message : SettingsFault → String
  | zeroScrapeInterval => "scrape_interval must be greater than 0"
  | zeroDefaultWindow => "default_window must be greater than 0"
  | zeroRingCapacity => "ring_capacity must be greater than 0"
  | probePattern p => "Invalid probe path pattern '" ++ p ++ "'"
  | adminPortZero => "admin_ports cannot contain port 0"
  | intervalOutOfRange => "scrape_interval out of range"
  | unreadableFile path reason => "Failed to read config file " ++ path ++ ": " ++ reason
  | noCommand => "No command given, try `kubepulse replay <FILES>` or --check-config"
  | described text => text

def LineFault.message : LineFault → String
  | unreadable line => "Failed to parse sample '" ++ line ++ "'"
  | trailing rest => "Unexpected input after sample: '" ++ rest ++ "'"
  | described text => text

def SampleFault.message : SampleFault → String
  | notASample line => "Not a sample line: '" ++ line ++ "'"
  | described text => text

def LookupFault.message : LookupFault → String
  | configFile path => "Config file " ++ path
  | described text => text

namespace Failure

def message : Failure → String
  | settings fault => "Configuration error: " ++ fault.message
  | line fault => "Parse error: " ++ fault.message
  | sample fault => "Invalid sample: " ++ fault.message
  | lookup fault => "Not found: " ++ fault.message
  | access text => "IO error: " ++ text
  | report text => "Serialization error: " ++ text
  | document text => "YAML error: " ++ text
  | pattern text => "Invalid pattern: " ++ text

def recoverable : Failure → Bool
  | access _ | line _ | sample _ | lookup _ => true
  | settings _ | report _ | document _ | pattern _ => false

def category : Failure → String
  | settings _ | document _ | pattern _ => "config"
  | line _ | report _ => "serialization"
  | sample _ => "validation"
  | lookup _ => "not_found"
  | access _ => "io"

end Failure
end ScrapeTelemetry
