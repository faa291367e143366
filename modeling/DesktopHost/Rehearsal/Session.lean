import DesktopHost.Session.Run
import DesktopHost.World.Record

/-!
A rehearsal of a whole session: scripted steps from outside, and in the end the sender of commands
goes away.
-/

set_option autoImplicit false

namespace DesktopHost

structure Performance where
  initial : LifecycleState
  finishedAt : Option Nat
  report : Report
  world : World

namespace Session

def lastTime (steps : List Due) : Nat := steps.foldl (fun t d => max t d.time) 0

/-- Plays a session with the given steps; those after its end still happen. -/
def perform (s : Session) (steps : List Due) : Performance :=
  let last := lastTime steps
  let begun := s.inWorld (s.world.schedule (steps ++ [⟨last, .dropHandle⟩]))
  let ended := begun.play
  ⟨s.machine.state, ended.finishedAt?, ended.report, ended.world.advanceTo last⟩

end Session
end DesktopHost
