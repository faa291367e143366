import DesktopHost.Backend.Launch
import DesktopHost.Lifecycle
import DesktopHost.Readiness.Signal
import DesktopHost.Window

/-!
What happens in a session, as seen from outside: actions on the world, and log records.
-/

set_option autoImplicit false

namespace DesktopHost

inductive Command where
  | activate | windowClosed | quit
  deriving DecidableEq, Repr

namespace Command

def name : Command → String
  | .activate => "activate"
  | .windowClosed => "window_closed"
  | .quit => "quit"

def debug : Command → String
  | .activate => "Activate"
  | .windowClosed => "WindowClosed"
  | .quit => "Quit"

end Command

inductive StreamKind where
  | stdout | stderr
  deriving DecidableEq, Repr

def StreamKind.name : StreamKind → String
  | .stdout => "stdout"
  | .stderr => "stderr"

/-- How stopping a backend ended. -/
inductive ShutdownOutcome where
  | alreadyExited (report : ExitReport)
  | graceful (report : ExitReport)
  /-- Without a report, the exit was not seen after the forceful signal either. -/
  | forced (report : Option ExitReport)
  | skipped
  deriving DecidableEq, Repr

namespace ShutdownOutcome

def name : ShutdownOutcome → String
  | .alreadyExited _ => "AlreadyExited"
  | .graceful _ => "Graceful"
  | .forced _ => "Forced"
  | .skipped => "Skipped"

def report : ShutdownOutcome → Option ExitReport
  | .alreadyExited r | .graceful r => some r
  | .forced r => r
  | .skipped => none

def debug : ShutdownOutcome → String
  | .alreadyExited r => "AlreadyExited(" ++ r.debug ++ ")"
  | .graceful r => "Graceful(" ++ r.debug ++ ")"
  | .forced r => "Forced(" ++ ExitReport.debugOption r ++ ")"
  | .skipped => "Skipped"

end ShutdownOutcome

inductive Level where
  | debug | info | warn | error
  deriving DecidableEq, Repr

def Level.name : Level → String
  | .debug => "DEBUG"
  | .info => "INFO"
  | .warn => "WARN"
  | .error => "ERROR"

/-- A log record. -/
inductive Note where
  | transition (source target : LifecycleState) (cycle : Nat)
  | cycleBegun (cycle : Nat)
  | readinessResolved (signal : ReadinessSignal) (elapsed : Nat)
  | readinessAssumed (signal : ReadinessSignal) (elapsed : Nat)
  | commandIgnored (command : Command)
  | shutdownFinished (outcome : ShutdownOutcome)
  | checkFailed (attempt maxAttempts : Nat) (failure : HealthFailure)
  | checksExhausted (attempts : Nat)
  | activateIgnored
  | handlesDropped
  | signalSkipped (pid : Option Nat) (signal : TerminationSignal) (report : ExitReport)
  | shutdownSkipped (pid : Option Nat)
  | windowAlreadyOpen (url : String)
  | restarting
  | exitedAfterRequest (pid : Option Nat) (report : ExitReport)
  | nothingToHost
  | initialized
  | quitRequested (state : LifecycleState)
  | startupReported (pid : Option Nat)
  | alreadyExited (pid : Option Nat) (report : ExitReport)
  | windowClosed
  | exitedCleanly (pid : Option Nat) (state : LifecycleState)
  | forcing (pid : Option Nat) (grace : Nat)
  | exitNotSeen (pid : Option Nat)
  | signalFailed (signal : TerminationSignal) (pid : Option Nat) (failure : Failure)
  | executableMissing (path : Path)
  | spawnFailed (path : Path) (failure : Failure)
  | lifecycleFailure (problem : Problem) (state : LifecycleState)
  | windowFailed (failure : WindowError) (state : LifecycleState)
  | reporterFailed (panic : String) (state : LifecycleState)
  | uncaughtPanic (panic : String)
  | cannotBegin (refusal : Refusal) (state : LifecycleState)
  | transitionRejected (refusal : Refusal) (state : LifecycleState)
  deriving DecidableEq, Repr

namespace Note

def level : Note → Level
  | .transition .. | .cycleBegun _ | .readinessResolved .. | .commandIgnored _
  | .shutdownFinished _ | .checkFailed .. | .activateIgnored | .handlesDropped
  | .signalSkipped .. | .shutdownSkipped _ | .windowAlreadyOpen _ => .debug
  | .restarting | .exitedAfterRequest .. | .nothingToHost | .initialized | .quitRequested _
  | .startupReported _ | .alreadyExited .. | .windowClosed => .info
  | .readinessAssumed .. | .checksExhausted _ | .exitedCleanly .. | .forcing .. | .exitNotSeen _
  | .signalFailed .. => .warn
  | .executableMissing _ | .spawnFailed .. | .lifecycleFailure .. | .windowFailed ..
  | .reporterFailed .. | .uncaughtPanic _ | .cannotBegin .. | .transitionRejected .. => .error

def message : Note → String
  | .transition .. => "lifecycle transition"
  | .cycleBegun _ => "startup cycle begun"
  | .readinessResolved .. => "readiness resolved"
  | .readinessAssumed .. => "Backend readiness assumed without confirmation"
  | .commandIgnored _ => "ignoring command while backend is starting"
  | .shutdownFinished _ => "backend shutdown finished"
  | .checkFailed .. => "Health check failed, backend not ready yet"
  | .checksExhausted _ => "Backend health check failed, proceeding anyway"
  | .activateIgnored => "activate ignored: window already open"
  | .handlesDropped => "all controller handles dropped"
  | .signalSkipped .. => "signal skipped: process already exited"
  | .shutdownSkipped _ => "shutdown already ran, skipping"
  | .windowAlreadyOpen _ => "window already open, ignoring create"
  | .restarting => "No backend running, re-running startup"
  | .exitedAfterRequest .. => "Backend exited after termination request"
  | .nothingToHost => "Startup failed and no window is open, exiting"
  | .initialized => "Application initialized successfully"
  | .quitRequested _ => "Quit requested"
  | .startupReported _ => "Backend reported startup complete"
  | .alreadyExited .. => "Backend already exited, nothing to stop"
  | .windowClosed => "Application window closed"
  | .exitedCleanly .. => "Backend exited on its own with code 0"
  | .forcing .. => "Backend did not exit in time, forcing termination"
  | .exitNotSeen _ => "Backend exit not observed after forced kill"
  | .signalFailed s .. => "Failed to send " ++ s.display ++ " termination signal"
  | .executableMissing _ => "Backend executable not found"
  | .spawnFailed .. => "Failed to spawn backend"
  | .lifecycleFailure .. => "Lifecycle failure"
  | .windowFailed .. => "Failed to create application window"
  | .reporterFailed .. => "Error reporter failed"
  | .uncaughtPanic _ => "Uncaught panic"
  | .cannotBegin .. => "Cannot begin startup cycle"
  | .transitionRejected .. => "Lifecycle transition rejected"

def unhandledText (detail : String) : String := (Problem.unhandled detail).message

def readinessFields (signal : ReadinessSignal) (elapsed : Nat) : List (String × String) :=
  [("signal", signal.debug), ("elapsed", (Duration.ofMillis elapsed).text)]

/-- The named values of a record, as they are printed. -/
def fields : Note → List (String × String)
  | .transition source target cycle =>
    [("from", source.display), ("to", target.display), ("cycle", toString cycle)]
  | .cycleBegun cycle => [("cycle", toString cycle)]
  | .readinessResolved signal elapsed => readinessFields signal elapsed
  | .readinessAssumed signal elapsed => readinessFields signal elapsed
  | .commandIgnored c => [("command", c.debug)]
  | .shutdownFinished o => [("outcome", o.debug)]
  | .checkFailed attempt maxAttempts e =>
    [("attempt", toString attempt), ("max_attempts", toString maxAttempts), ("error", e.message)]
  | .checksExhausted n => [("attempts", toString n)]
  | .signalSkipped pid s r => [("pid", pidText pid), ("signal", s.display), ("report", r.display)]
  | .shutdownSkipped pid => [("pid", pidText pid)]
  | .windowAlreadyOpen url => [("url", url)]
  | .exitedAfterRequest pid r => [("pid", pidText pid), ("report", r.display)]
  | .quitRequested state => [("state", state.display)]
  | .startupReported pid => [("pid", pidText pid)]
  | .alreadyExited pid r => [("pid", pidText pid), ("report", r.display)]
  | .exitedCleanly pid state => [("pid", pidText pid), ("state", state.display)]
  | .forcing pid grace => [("pid", pidText pid), ("grace", (Duration.ofMillis grace).text)]
  | .exitNotSeen pid => [("pid", pidText pid)]
  | .signalFailed _ pid f => [("pid", pidText pid), ("error", f.text)]
  | .executableMissing path => [("path", path.display)]
  | .spawnFailed path f => [("path", path.display), ("error", f.text)]
  | .lifecycleFailure p state => [("error", p.message), ("state", state.display)]
  | .windowFailed e state => [("error", unhandledText e.message), ("state", state.display)]
  | .reporterFailed panic state =>
    [("error", unhandledText ("task N panicked with message " ++ Quoted.quote panic)),
      ("state", state.display)]
  | .uncaughtPanic panic => [("error", unhandledText ("panicked at <location>:\n" ++ panic))]
  | .cannotBegin r state => [("error", unhandledText r.message), ("state", state.display)]
  | .transitionRejected r state => [("error", unhandledText r.message), ("state", state.display)]
  | .activateIgnored | .handlesDropped | .restarting | .nothingToHost | .initialized
  | .windowClosed => []

end Note

inductive Event where
  | spawn (child : Nat) (launch : Launch)
  | signal (child : Nat) (signal : TerminationSignal)
  | healthCall (n : Nat)
  | openWindow (url : String)
  | dialog (d : Dialog)
  /-- `sent` is what the sender was told; nothing once its handle is gone. -/
  | command (c : Command) (sent : Option Bool)
  | exit (child : Nat) (code : Option Int32) (known : Bool)
  | line (pid : Option Nat) (stream : StreamKind) (text : String)
  | note (n : Note)
  deriving DecidableEq, Repr

end DesktopHost
