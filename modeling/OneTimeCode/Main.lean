import OneTimeCode.Log
import OneTimeCode.Service
import OneTimeCode.Store.Migration.Tool
import Std.Time

/-!
# The programs

Called as `migrate`, the program runs the migration tool, and otherwise the
service.  The service stops when its standard input ends.
-/

namespace OneTimeCode.Program

/-- The names under which a variable of the environment can set a program up. -/
def variableNames : List String :=
  Service.filterVariable :: Migration.schemaVariable ::
    Settings.Field.all.flatMap fun field => [field.name.toUpper, field.name]

def environment : IO (List Settings.Variable) :=
  variableNames.filterMapM fun name => do
    return (← IO.getEnv name).map fun value => (name, value)

/-- The instant shown by the wall clock. -/
def wallNow : IO Instant := do
  let nanos := (← Std.Time.Timestamp.now).toNanosecondsSinceUnixEpoch.val
  return (Instant.of? (nanos / nanosPerSecond) (nanos % nanosPerSecond).toNat).getD
    Instant.latest

def abort (reason : Abort) : IO UInt32 := do
  for message in reason.message? do
    IO.eprintln message
  return UInt32.ofNat reason.status

def logLine (filter : Log.Filter) (line : Log.Line) : IO Unit := do
  if filter.admits line then
    IO.println (line.print (← wallNow))
    (← IO.getStdout).flush

partial def readToEnd (input : IO.FS.Stream) : IO Unit := do
  unless (← input.getLine).isEmpty do
    readToEnd input

/-- Sweeps whenever a tick is due, and looks for the end of input in between. -/
partial def sweepUntil (service : Service) (filter : Log.Filter)
    (inputEnd : Task (Except IO.Error Unit)) (due : Nat) : IO Unit := do
  if ← IO.hasFinished inputEnd then return
  let now ← IO.monoMsNow
  if due ≤ now then
    let outcome := (service.ledger.sweep (← wallNow)).outcome
    logLine filter (Sweep.event outcome).line
    sweepUntil service filter inputEnd
      (Scheduler.nextDue service.settings.cleanupInterval due now)
  else
    IO.sleep (UInt32.ofNat (min (due - now) 50))
    sweepUntil service filter inputEnd due

def serve (entries : List Settings.Variable) : IO UInt32 := do
  match Service.start entries with
  | .error fault => abort (.failed fault.message)
  | .ok service =>
    let log := logLine service.filter
    if service.settings.cleanupEnabled then
      let inputEnd ← IO.asTask (readToEnd (← IO.getStdin))
      log (Log.SweepEvent.started service.settings.cleanupInterval.seconds).line
      sweepUntil service service.filter inputEnd (← IO.monoMsNow)
      log Log.ServiceEvent.shutdownReceived.line
      log Log.SweepEvent.stopped.line
    else
      log Log.ServiceEvent.cleanupDisabled.line
    return 0

def migrate (texts : List String) (entries : List Settings.Variable) : IO UInt32 := do
  match Migration.runTool texts entries with
  | .error reason => abort reason
  | .ok lines =>
    lines.forM fun line => IO.println line
    return 0

def run (arguments : List String) : IO UInt32 := do
  let entries ← environment
  match arguments with
  | "migrate" :: texts => migrate texts entries
  | _ => serve entries

end OneTimeCode.Program

def main (arguments : List String) : IO UInt32 :=
  OneTimeCode.Program.run arguments
