/-!
How a backend was found ready, and the count of the health checks spent on it.
-/

set_option autoImplicit false

namespace DesktopHost

inductive ReadinessSignal where
  | outputMatched
  | healthCheckPassed (attempts : Nat)
  | healthCheckExhausted (attempts : Nat)
  | startupTimeout
  deriving DecidableEq, Repr

namespace ReadinessSignal

/-- Only a marker line or a passed check confirms; the other two merely end the wait. -/
def isConfirmed : ReadinessSignal → Bool
  | .outputMatched | .healthCheckPassed _ => true
  | _ => false

def debug : ReadinessSignal → String
  | .outputMatched => "OutputMatched"
  | .healthCheckPassed n => "HealthCheckPassed \x7b attempts: " ++ toString n ++ " \x7d"
  | .healthCheckExhausted n => "HealthCheckExhausted \x7b attempts: " ++ toString n ++ " \x7d"
  | .startupTimeout => "StartupTimeout"

/-- The name of the kind alone. -/
def kindName : ReadinessSignal → String
  | .outputMatched => "OutputMatched"
  | .healthCheckPassed _ => "HealthCheckPassed"
  | .healthCheckExhausted _ => "HealthCheckExhausted"
  | .startupTimeout => "StartupTimeout"

end ReadinessSignal

/-- Health checks made so far, out of a fixed allowance. -/
structure Attempts where
  max : Nat
  count : Nat
  deriving DecidableEq, Repr

namespace Attempts

def new (max : Nat) : Attempts := ⟨max, 0⟩

/-- Counts one more check; its number is the new count. -/
def record (a : Attempts) : Attempts := { a with count := a.count + 1 }

def isExhausted (a : Attempts) : Bool := a.max ≤ a.count

theorem not_isExhausted {a : Attempts} (h : a.isExhausted = false) : a.count < a.max := by
  simp [isExhausted] at h; exact h

end Attempts
end DesktopHost
