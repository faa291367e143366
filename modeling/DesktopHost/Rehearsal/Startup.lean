import DesktopHost.Backend.Handle
import DesktopHost.Readiness.Race
import DesktopHost.World.Record

/-!
A rehearsal of one startup: the backend is spawned, its readiness is awaited, and the world goes
on for a while.
-/

set_option autoImplicit false

namespace DesktopHost

/-- A backend whose readiness is resolved, as it is at that instant. -/
structure Startup where
  signal : ReadinessSignal
  elapsed : Nat
  handle : Handle
  exit : Option ExitReport
  debug : String

namespace Startup

/-- Spawns the backend of `l` and awaits its readiness; tells when that was. -/
def await (limits : ReadinessConfig) (w : World) (l : Launch) :
    World × Except Problem Startup :=
  match w.spawnBackend l limits.markers with
  | (w, .error p) => (w, .error p)
  | (w, .ok h) =>
    let begun := w.now
    let (w, race) := Race.start limits w h.child
    let (w, signal) := race.run limits w
    (w, .ok ⟨signal, w.now - begun, h, h.exitReport w, h.debug w⟩)

end Startup
end DesktopHost
