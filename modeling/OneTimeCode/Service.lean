import OneTimeCode.Failure
import OneTimeCode.Log.Filter
import OneTimeCode.Scheduler
import OneTimeCode.Settings
import OneTimeCode.Store.Connection
import OneTimeCode.Store.Migration

/-!
# The service

The service connects to the database that its settings name, creates the table if
it is to, and then sweeps the database until it is told to stop.
-/

namespace OneTimeCode

structure Service where
  filter : Log.Filter
  settings : Settings
  ledger : Ledger

namespace Service

/-- Why the service did not start. -/
inductive StartFault
  | filter (fault : Text.SplitCharacter)
  | settings (fault : Settings.LoadFault)
  | connection (fault : ConnectionFault)
  | migration (fault : DatabaseFault)
deriving DecidableEq, Repr

def StartFault.message : StartFault → String
  | filter fault => fault.message
  | settings fault => "failed to load config from environment: " ++ fault.report
  | connection fault => "failed to connect to database: " ++ fault.report
  | migration fault => s!"failed to run migrations: Exec(SqlxError({fault.report}))"

/-- The variable that the log's filter is set by. -/
def filterVariable : String := "RUST_LOG"

/-- The log is set up first, so that the rest can be logged. -/
def start (entries : List Settings.Variable) : Except StartFault Service := do
  let filter ← (Log.Filter.ofSetting (entries.lookup filterVariable)).mapError .filter
  let settings ← (Settings.ofVariables entries).mapError .settings
  let connection ← (Connection.ofString settings.databaseUrl).mapError .connection
  if settings.runMigrations then
    let ledger ← (connection.change (Migration.apply none)).mapError .migration
    .ok ⟨filter, settings, ledger⟩
  else
    .ok ⟨filter, settings, connection.ledger⟩

/-- The service's sweeps until shutdown is asked for, each done at once.  Nobody
else uses its database, so they all come out the same. -/
def run (service : Service) (now : Instant) (shutdownAt : Nat) : Scheduler.Run :=
  let interval := service.settings.cleanupInterval
  let outcome := (service.ledger.sweep now).outcome
  Scheduler.run interval shutdownAt (fun _ => .shutdown)
    (List.replicate (shutdownAt / interval.millis + 1) ⟨0, outcome⟩)

/-- Everything that the service has to log, from start to end. -/
def lines (service : Service) (now : Instant) (shutdownAt : Nat) : List Log.Line :=
  if service.settings.cleanupEnabled then
    [(Log.SweepEvent.started service.settings.cleanupInterval.seconds).line] ++
      (service.run now shutdownAt).sweepEvents.map Log.SweepEvent.line ++
      [Log.ServiceEvent.shutdownReceived.line, Log.SweepEvent.stopped.line]
  else
    [Log.ServiceEvent.cleanupDisabled.line]

/-- The log of a service with these variables, as far as its filter admits it. -/
def log (entries : List Settings.Variable) (now : Instant) (shutdownAt : Nat) :
    Except Abort (List Log.Line) :=
  match start entries with
  | .error fault => .error (.failed fault.message)
  | .ok service => .ok ((service.lines now shutdownAt).filter service.filter.admits)

end Service

end OneTimeCode
