import DesktopHost.Backend.Shutdown
import DesktopHost.World.Record

/-!
A rehearsal of process handles: several scripted children, a handle on each, one shutdown for all
of them, and a list of acts. After every act the handle it concerned is looked at.
-/

set_option autoImplicit false

namespace DesktopHost

inductive HandleAct where
  | stop (child : Nat)
  | sleep (time : Nat)
  /-- The child exits. -/
  | exit (child : Nat) (code : Option Int32)
  /-- The publisher of the child's exit vanishes. -/
  | unwatch (child : Nat)
  | signal (child : Nat) (s : TerminationSignal)
  | requestTermination (child : Nat)
  | wait (child limit : Nat)
  | takeStdout (child : Nat)
  | takeStderr (child : Nat)
  | look (child : Nat)
  deriving DecidableEq, Repr

/-- The child an act concerns; sleeping looks at the first. -/
def HandleAct.child : HandleAct → Nat
  | .sleep _ => 0
  | .stop i | .exit i _ | .unwatch i | .signal i _ | .requestTermination i | .wait i _
  | .takeStdout i | .takeStderr i | .look i => i

inductive HandleAnswer where
  | stopped (o : ShutdownOutcome)
  | sent (r : Except Failure Unit)
  /-- Without a report the limit was reached. -/
  | waited (r : Option ExitReport)
  | taken (was : Bool)
  | nothing

structure HandleStage where
  world : World
  handles : List Handle
  shutdown : Shutdown

/-- What is seen after an act. -/
structure HandleView where
  answer : HandleAnswer
  time : Nat
  /-- What happened since the act before. -/
  events : List (Nat × Event)
  exited : Bool
  requested : Bool
  stopped : Bool
  debug : String

namespace HandleStage

/-- Spawns the next `n` children; the first failure ends it. -/
def spawnAll (w : World) : Nat → Except Failure (World × List Handle)
  | 0 => .ok (w, [])
  | n + 1 =>
    match w.spawn (.forExecutable [] []) with
    | (_, .error f) => .error f
    | (w, .ok i) =>
      match spawnAll w n with
      | .ok (w', hs) => .ok (w', Handle.ofChild w i :: hs)
      | .error f => .error f

/-- A stage with every scripted child spawned, and an empty record. -/
def open? (w : World) (grace : Nat) : Except Failure HandleStage :=
  match spawnAll w w.childScripts.length with
  | .ok (w, hs) => .ok ⟨w.forget, hs, .new grace⟩
  | .error f => .error f

def handle? (s : HandleStage) (i : Nat) : Option Handle := s.handles[i]?

def setHandle (s : HandleStage) (i : Nat) (h : Handle) : HandleStage :=
  { s with handles := s.handles.set i h }

/-- Does something with a handle, and nothing without one. -/
def withHandle (s : HandleStage) (i : Nat) (f : Handle → HandleStage × HandleAnswer) :
    HandleStage × HandleAnswer :=
  match s.handle? i with
  | some h => f h
  | none => (s, .nothing)

def act (s : HandleStage) : HandleAct → HandleStage × HandleAnswer
  | .stop i => s.withHandle i fun h =>
    let (w, shutdown, h, o) := s.shutdown.stop s.world h
    ({ s.setHandle i h with world := w, shutdown := shutdown }, .stopped o)
  | .sleep t => ({ s with world := s.world.sleep t }, .nothing)
  | .exit i code => ({ s with world := s.world.publish i code }, .nothing)
  | .unwatch i => ({ s with world := s.world.unwatch i }, .nothing)
  | .signal i sig => s.withHandle i fun h =>
    let (w, r) := h.signal s.world sig
    ({ s with world := w }, .sent r)
  | .requestTermination i => s.withHandle i fun h =>
    (s.setHandle i h.requestTermination, .nothing)
  | .wait i limit => s.withHandle i fun h =>
    let (w, r) := s.world.awaitExit h.child (s.world.now + limit)
    ({ s with world := w }, .waited r)
  | .takeStdout i => s.withHandle i fun h =>
    let (h, was) := h.takeStdout
    (s.setHandle i h, .taken was)
  | .takeStderr i => s.withHandle i fun h =>
    let (h, was) := h.takeStderr
    (s.setHandle i h, .taken was)
  | .look _ => (s, .nothing)

def view (s : HandleStage) (i : Nat) (a : HandleAnswer) : HandleView where
  answer := a
  time := s.world.now
  events := s.world.shownEvents
  exited := (s.handle? i).any fun h => h.hasExited s.world
  requested := (s.handle? i).any (·.terminationRequested)
  stopped := s.shutdown.stopped
  debug := ((s.handle? i).map fun h => h.debug s.world).getD ""

/-- What is seen after each of a list of acts. -/
def rehearse (s : HandleStage) : List HandleAct → List HandleView
  | [] => []
  | a :: rest =>
    let (s', answer) := s.act a
    s'.view a.child answer :: rehearse { s' with world := s'.world.forget } rest

end HandleStage
end DesktopHost
