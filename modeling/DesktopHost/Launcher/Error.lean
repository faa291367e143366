import DesktopHost.Config
import DesktopHost.Problem

/-!
Errors that stop the launcher, and the exit codes they lead to.
-/

set_option autoImplicit false

namespace DesktopHost

inductive LauncherErrorKind where
  /-- The session ended in failure. -/
  | lifecycle
  | config
  | io
  | process
  deriving DecidableEq, Repr

structure LauncherError where
  kind : LauncherErrorKind
  detail : String
  deriving DecidableEq, Repr

namespace LauncherErrorKind

def name : LauncherErrorKind → String
  | .lifecycle => "Lifecycle"
  | .config => "Config"
  | .io => "Io"
  | .process => "Process"

/-- What stands before the detail in a message. -/
def lead : LauncherErrorKind → String
  | .lifecycle => ""
  | .config => "Configuration error: "
  | .io => "IO error: "
  | .process => "Process error: "

/-- The general failure, or the system's code for the kind of error. -/
def exitCode : LauncherErrorKind → Nat
  | .lifecycle => 1
  | .process => 71
  | .io => 74
  | .config => 78

end LauncherErrorKind

namespace LauncherError

def message (e : LauncherError) : String := e.kind.lead ++ e.detail

def exitCode (e : LauncherError) : Nat := e.kind.exitCode

def ofConfig (e : ConfigError) : LauncherError := ⟨.config, e.message⟩

def ofLocate (e : LocateError) : LauncherError := ⟨.io, e.message⟩

def ofHealth (e : HealthFailure) : LauncherError := ⟨.process, e.message⟩

def ofFailure (f : Failure) : LauncherError := ⟨.io, f.text⟩

/-- What a failed session leaves behind. -/
def ofFailedSession (errorsReported : Nat) : LauncherError :=
  ⟨.lifecycle, "Bracket stopped after a fatal error (" ++ toString errorsReported ++ " reported)"⟩

end LauncherError
end DesktopHost
