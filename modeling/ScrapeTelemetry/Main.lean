import ScrapeTelemetry.CommandLine.Run
import Std.Time.DateTime.Timestamp

/-!
# The program

Reads the files that the arguments name and the time, and prints how the run ends.
-/

set_option autoImplicit false

namespace ScrapeTelemetry

def contentOf (path : String) : IO FileContent := do
  try
    let bytes ← IO.FS.readBinFile path
    return match String.fromUTF8? bytes with
      | some s => .text s
      | none => .undecodable
  catch
    | .noFileOrDirectory .. => return .missing
    | e => return .unreadable (toString e)

def filesAt (paths : List String) : IO Files := do
  let found ← paths.mapM fun p => return (p, ← contentOf p)
  return fun p => (found.lookup p).getD .missing

def now : IO Instant := do
  return ⟨(← Std.Time.Timestamp.now).toNanosecondsSinceUnixEpoch.toInt⟩

def complaint : RunOutcome → Option String
  | .failed f => some ("Error: " ++ f.message)
  | .offCalendar => some "Error: a scrape would lie outside the calendar"
  | .usage .displayHelp | .usage .displayVersion => none
  | .usage _ => some ("error: invalid arguments\n\n" ++ RunOutcome.helpText)
  | .checked _ | .replayed _ => none

end ScrapeTelemetry

open ScrapeTelemetry

def main (args : List String) : IO UInt32 := do
  let outcome ← match CommandLine.readRequest args with
    | .ok request => pure (request.run (← filesAt request.paths) (← now))
    | .error stop => pure (.usage stop)
  for text in outcome.printed do IO.println text
  for text in complaint outcome do IO.eprintln text
  return outcome.exitCode.toUInt32
