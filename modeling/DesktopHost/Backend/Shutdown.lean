import DesktopHost.Backend.Handle

/-!
Stopping a backend: first a graceful signal, then, after a grace period, a forceful one. A
session stops one backend at most once.
-/

set_option autoImplicit false

namespace DesktopHost

structure Shutdown where
  grace : Nat
  stopped : Bool
  deriving DecidableEq, Repr

namespace Shutdown

/-- How long an exit is waited for after the forceful signal. -/
def reapTimeout : Nat := 1000

def new (grace : Nat) : Shutdown := ⟨grace, false⟩

/-- Sends a signal; a failure is recorded and changes nothing else. -/
def send (w : World) (h : Handle) (s : TerminationSignal) : World :=
  match h.signal w s with
  | (w, .ok _) => w
  | (w, .error f) => w.note (.signalFailed s h.pid f)

/-- After the grace period: the forceful signal, and a last wait. -/
def force (w : World) (h : Handle) (grace : Nat) : World × ShutdownOutcome :=
  let w := send (w.note (.forcing h.pid grace)) h .forceful
  match w.awaitExit h.child (w.now + reapTimeout) with
  | (w, some r) => (w, .forced (some r))
  | (w, none) => (w.note (.exitNotSeen h.pid), .forced none)

/-- Both phases, for a backend whose termination has been requested. -/
def escalate (w : World) (h : Handle) (grace : Nat) : World × ShutdownOutcome :=
  match h.exitReport w with
  | some r => (w.note (.alreadyExited h.pid r), .alreadyExited r)
  | none =>
    let w := send w h .graceful
    match w.awaitExit h.child (w.now + grace) with
    | (w, some r) => (w, .graceful r)
    | (w, none) => force w h grace

/-- Stops the backend behind `h`; the request is noted on the handle before any signal goes out. -/
def stop (s : Shutdown) (w : World) (h : Handle) : World × Shutdown × Handle × ShutdownOutcome :=
  if s.stopped then (w.note (.shutdownSkipped h.pid), s, h, .skipped)
  else
    let h := h.requestTermination
    let (w, outcome) := escalate w h s.grace
    (w, { s with stopped := true }, h, outcome)

theorem send_commandsLeft (w : World) (h : Handle) (s : TerminationSignal) :
    (send w h s).commandsLeft = w.commandsLeft := by
  have := h.signal_commandsLeft w s
  unfold send
  split <;> next hs => rw [hs] at this; exact this

theorem force_commandsLeft_le (w : World) (h : Handle) (grace : Nat) :
    (force w h grace).1.commandsLeft ≤ w.commandsLeft := by
  unfold force
  dsimp only
  have h₁ := send_commandsLeft (w.note (.forcing h.pid grace)) h .forceful
  have h₂ := (send (w.note (.forcing h.pid grace)) h .forceful).awaitExit_commandsLeft_le h.child
    ((send (w.note (.forcing h.pid grace)) h .forceful).now + reapTimeout)
  have h₃ : (w.note (.forcing h.pid grace)).commandsLeft = w.commandsLeft := rfl
  split
  · next hs => rw [hs] at h₂; exact Nat.le_trans h₂ (Nat.le_of_eq (h₁.trans h₃))
  · next hs => rw [hs] at h₂; exact Nat.le_trans h₂ (Nat.le_of_eq (h₁.trans h₃))

theorem escalate_commandsLeft_le (w : World) (h : Handle) (grace : Nat) :
    (escalate w h grace).1.commandsLeft ≤ w.commandsLeft := by
  unfold escalate
  split
  · exact Nat.le_refl _
  · dsimp only
    have h₁ := send_commandsLeft w h .graceful
    have h₂ := (send w h .graceful).awaitExit_commandsLeft_le h.child
      ((send w h .graceful).now + grace)
    split
    · next hs => rw [hs] at h₂; exact Nat.le_trans h₂ (Nat.le_of_eq h₁)
    · next hs =>
      rw [hs] at h₂
      exact Nat.le_trans (force_commandsLeft_le _ _ _) (Nat.le_trans h₂ (Nat.le_of_eq h₁))

theorem stop_commandsLeft_le (s : Shutdown) (w : World) (h : Handle) :
    (s.stop w h).1.commandsLeft ≤ w.commandsLeft := by
  unfold stop
  split
  · exact Nat.le_refl _
  · exact escalate_commandsLeft_le _ _ _

end Shutdown
end DesktopHost
