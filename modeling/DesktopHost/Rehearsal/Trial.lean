import DesktopHost.Backend.Described
import DesktopHost.Backend.Shutdown
import DesktopHost.Rehearsal.Startup

/-!
A trial of one backend: it is started, its exit is awaited or forced if that is wanted, and then it
is stopped.
-/

set_option autoImplicit false

namespace DesktopHost

structure Trial where
  signal : ReadinessSignal
  pid : Option Nat
  waited : Option ExitReport
  stop : ShutdownOutcome
  lines : List String

namespace Trial

/-- How long an exit is awaited; longer than any described backend needs. -/
def patience : Nat := 1000000

def awaitIf (wanted : Bool) (w : World) (h : Handle) : World × Option ExitReport :=
  if wanted then w.awaitExit h.child (w.now + patience) else (w, none)

def killIf (wanted : Bool) (w : World) (h : Handle) : World :=
  if wanted then
    let (w, _) := h.signal w .forceful
    (w.awaitExit h.child (w.now + patience)).1
  else w

def run (c : Config) (w : World) (l : Launch) (waitExit kill : Bool) : Except Problem Trial :=
  match Startup.await c.readiness w l with
  | (_, .error p) => .error p
  | (w, .ok s) =>
    let (w, waited) := awaitIf waitExit w s.handle
    let w := killIf kill w s.handle
    let (w, _, _, stop) := (Shutdown.new c.shutdownGrace).stop w s.handle
    .ok ⟨s.signal, s.handle.pid, waited, stop, w.linesOf ⟨s.handle.pid, .stdout⟩⟩

/-- Spawns a backend, awaits its exit and then sends it both signals all the same. -/
def signalsAfterExit (w : World) (l : Launch) :
    Except Failure (Option ExitReport × Except Failure Unit × Except Failure Unit) :=
  match w.spawn l with
  | (_, .error f) => .error f
  | (w, .ok i) =>
    let (w, report) := w.awaitExit i (w.now + patience)
    let (w, terminated) := w.signal i .graceful
    .ok (report, terminated, (w.signal i .forceful).2)

end Trial
end DesktopHost
