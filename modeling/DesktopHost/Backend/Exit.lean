/-!
How a backend process ended, and the two signals that ask it to.
-/

set_option autoImplicit false

namespace DesktopHost

/-- A process that was ended by a signal has no code. -/
structure ExitReport where
  code : Option Int32
  deriving DecidableEq, Repr

namespace ExitReport

def unknown : ExitReport := ⟨none⟩

/-- Reads a raw wait status: only a normal exit, with the low seven bits clear, has a code. -/
def ofWaitStatus (status : Int) : ExitReport :=
  if status % 128 = 0 then ⟨some (Int32.ofInt (status / 256 % 256))⟩ else ⟨none⟩

def isSuccess (r : ExitReport) : Bool := r.code == some 0

def display (r : ExitReport) : String :=
  match r.code with
  | some c => "exit code " ++ toString c.toInt
  | none => "terminated by signal"

def debug (r : ExitReport) : String :=
  match r.code with
  | some c => "ExitReport \x7b code: Some(" ++ toString c.toInt ++ ") \x7d"
  | none => "ExitReport \x7b code: None \x7d"

def debugOption : Option ExitReport → String
  | some r => "Some(" ++ r.debug ++ ")"
  | none => "None"

end ExitReport

inductive TerminationSignal where
  | graceful | forceful
  deriving DecidableEq, Repr

namespace TerminationSignal

def display : TerminationSignal → String
  | .graceful => "graceful"
  | .forceful => "forceful"

def debug : TerminationSignal → String
  | .graceful => "Graceful"
  | .forceful => "Forceful"

/-- What the process is sent. -/
def request : TerminationSignal → String
  | .graceful => "terminate"
  | .forceful => "kill"

end TerminationSignal

/-- A process number in diagnostics; an ended process may have none. -/
def pidText : Option Nat → String
  | some n => "Some(" ++ toString n ++ ")"
  | none => "None"

end DesktopHost
