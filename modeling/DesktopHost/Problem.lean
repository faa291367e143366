import DesktopHost.Backend.Exit
import DesktopHost.Duration
import DesktopHost.Platform.Failure
import DesktopHost.Platform.Path

/-!
What can go wrong with a backend, and what the user is told about it.
-/

set_option autoImplicit false

namespace DesktopHost

/-- A health check that did not pass. -/
inductive HealthFailure where
  | request (reason : String)
  | status (code : Nat)
  | timeout (after : Duration)
  deriving DecidableEq, Repr

namespace HealthFailure

def message : HealthFailure → String
  | .request reason => "Health request failed: " ++ reason
  | .status code => "Health endpoint returned status " ++ toString code
  | .timeout d => "Health check timed out after " ++ d.text

def debug : HealthFailure → String
  | .request reason => "Request(" ++ reason ++ ")"
  | .status code => "Status(" ++ toString code ++ ")"
  | .timeout d => "Timeout(" ++ d.text ++ ")"

end HealthFailure

structure Dialog where
  title : String
  message : String
  deriving DecidableEq, Repr

inductive Problem where
  | executableNotFound (path : Path)
  | spawnFailed (path : Path) (source : Failure)
  | prematureExit (code : Option Int32)
  | healthCheckExhausted (attempts : Nat)
  | unhandled (detail : String)
  deriving DecidableEq, Repr

namespace Problem

def message : Problem → String
  | .executableNotFound path => "Backend executable not found at: " ++ path.display
  | .spawnFailed path source => "Failed to spawn backend " ++ path.display ++ ": " ++ source.text
  | .prematureExit (some code) =>
    "Backend process exited unexpectedly (code " ++ toString code.toInt ++ ")"
  | .prematureExit none => "Backend process exited unexpectedly (terminated by signal)"
  | .healthCheckExhausted n => "Backend health check failed after " ++ toString n ++ " attempts"
  | .unhandled detail => "Unhandled runtime error: " ++ detail

/-- Problems that end a startup cycle. -/
def isFatal : Problem → Bool
  | .executableNotFound _ | .spawnFailed _ _ | .prematureExit _ => true
  | _ => false

/-- The user is shown exactly the fatal problems. -/
def isVisible (p : Problem) : Bool := p.isFatal

def source : Problem → Option Failure
  | .spawnFailed _ f => some f
  | _ => none

def initializationTitle : String := "Initialization Error"

def backendTitle : String := "Backend Error"

def initializationDialog (p : Problem) : Dialog :=
  ⟨initializationTitle, "Failed to start the tournament system:\n\n" ++ p.message ++
    "\n\nPlease try restarting the application."⟩

def dialog : Problem → Option Dialog
  | .executableNotFound path => some (initializationDialog (.executableNotFound path))
  | .spawnFailed path source => some (initializationDialog (.spawnFailed path source))
  | .prematureExit _ =>
    some ⟨backendTitle, "The tournament system backend has stopped unexpectedly."⟩
  | _ => none

end Problem

inductive WindowError where
  | unavailable
  | create (reason : String)
  deriving DecidableEq, Repr

end DesktopHost
