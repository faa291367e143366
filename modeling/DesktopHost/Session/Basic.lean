import DesktopHost.Backend.Shutdown
import DesktopHost.Readiness.Race
import DesktopHost.Window.Host

/-!
The state of a session and the single acts it is made of: moving its machine, opening its window,
taking note of an exit, reporting a problem, quitting, and beginning a startup cycle.
-/

set_option autoImplicit false

namespace DesktopHost

/-- Where a session stands between two acts. -/
inductive Phase where
  /-- The first startup cycle has not begun. -/
  | launching
  /-- A backend is spawned; there is no race before the first look at its readiness. -/
  | probing (race : Option Race)
  | hosting
  /-- Between the two looks at an old backend's exit on the way to showing the window again. -/
  | reviving
  | finished (time : Nat)

structure Session where
  config : Config
  launch : Launch
  targetUrl : String
  world : World
  machine : Machine
  backend : Option Handle
  window : WindowHost
  shutdown : Shutdown
  errorsReported : Nat
  phase : Phase

structure Report where
  finalState : LifecycleState
  errorsReported : Nat
  cycles : Nat
  deriving DecidableEq, Repr

namespace Session

/-- A session that has not begun, for a sound configuration. -/
def new (config : Config) (program : Path) (world : World) : Except ConfigError Session := do
  config.validate
  let target ← config.targetUrl
  return {
    config := config
    launch := .forExecutable program config.backendEnv
    targetUrl := target.text
    world := world
    machine := .new
    backend := none
    window := .new
    shutdown := .new config.shutdownGrace
    errorsReported := 0
    phase := .launching }

def report (s : Session) : Report := ⟨s.machine.state, s.errorsReported, s.machine.cycle⟩

def inWorld (s : Session) (w : World) : Session := { s with world := w }

def inPhase (s : Session) (p : Phase) : Session := { s with phase := p }

def withMachine (s : Session) (m : Machine) : Session := { s with machine := m }

def hold (s : Session) (h : Handle) : Session := { s with backend := some h }

def release (s : Session) : Session := { s with backend := none }

def note (s : Session) (n : Note) : Session := s.inWorld (s.world.note n)

/-- Moves the machine on; a refused step is recorded and changes nothing. -/
def moveTo (s : Session) (next : LifecycleState) : Session :=
  match s.machine.advance next with
  | .ok m => (s.withMachine m).note (.transition s.machine.state next m.cycle)
  | .error r => s.note (.transitionRejected r s.machine.state)

/-- Moves the machine to `failed` unless its cycle is over. -/
def markFailed (s : Session) : Session :=
  match s.machine.fail with
  | (m, true) => (s.withMachine m).note (.transition s.machine.state .failed m.cycle)
  | (_, false) => s

/-- Shows the dialog of a problem, if it has one, and counts it unless the showing itself failed. -/
def showProblem (s : Session) (p : Problem) : Session :=
  match p.dialog with
  | none => s
  | some d =>
    match s.world.showDialog d with
    | (w, none) => { s.inWorld w with errorsReported := s.errorsReported + 1 }
    | (w, some text) => (s.inWorld w).note (.reporterFailed text s.machine.state)

def failWith (s : Session) (p : Problem) : Session :=
  ((s.note (.lifecycleFailure p s.machine.state)).markFailed).showProblem p

def windowOpen (s : Session) : Bool := s.window.isOpen

/-- Asks for the window on the session's own address. -/
def createWindow (s : Session) : Session × WindowCreation :=
  let (w, window, creation) := s.window.create s.world s.targetUrl
  ({ s.inWorld w with window := window }, creation)

/-- A ready session is running once its window is there. -/
def markRunning (s : Session) : Session :=
  if s.machine.state = .ready then s.moveTo .running else s

def openWindow (s : Session) : Session :=
  match s.createWindow with
  | (s, .created) => s.markRunning.note .initialized
  | (s, .alreadyOpen) => s
  | (s, .failed e) => s.note (.windowFailed e s.machine.state)

def closeWindow (s : Session) : Session :=
  let (w, window, _) := s.window.close s.world
  { s.inWorld w with window := window }

/-- A clean exit fails only a cycle that was still starting up. -/
def exitCleanly (s : Session) : Session :=
  match s.machine.state with
  | .starting | .probing => s.markFailed
  | _ => s

/-- Judges the exit of a backend that has been given up. -/
def judgeExit (s : Session) (h : Handle) (r : ExitReport) : Session :=
  if h.terminationRequested then s.note (.exitedAfterRequest h.pid r)
  else if r.isSuccess then (s.note (.exitedCleanly h.pid s.machine.state)).exitCleanly
  else s.failWith (.prematureExit r.code)

def backendExited (s : Session) (r : ExitReport) : Session :=
  match s.backend with
  | none => s
  | some h => s.release.judgeExit h r

/-- The session is over; nobody listens to commands any more. -/
def finish (s : Session) : Session :=
  (s.inWorld { s.world with listening := false }).inPhase (.finished s.world.now)

/-- Stops the backend, if one is held. -/
def stopBackend (s : Session) : Session :=
  match s.backend with
  | none => s
  | some h =>
    let (w, shutdown, _, outcome) := s.shutdown.stop s.world h
    { s.release.inWorld w with shutdown := shutdown }.note (.shutdownFinished outcome)

/-- Only a session whose cycle is not over goes on to shut down. -/
def beginShutdown (s : Session) : Session :=
  if s.machine.state.isTerminal then s else s.moveTo .shuttingDown

def endShutdown (s : Session) : Session :=
  if s.machine.state = .shuttingDown then s.moveTo .terminated else s

def quit (s : Session) : Session :=
  ((s.note (.quitRequested s.machine.state)).beginShutdown.stopBackend.endShutdown).finish

/-- Spawns the backend of a cycle that has begun. -/
def spawnBackend (s : Session) : Session :=
  match s.world.spawnBackend s.launch s.config.readiness.markers with
  | (w, .error p) => ((s.inWorld w).failWith p).inPhase .hosting
  | (w, .ok h) => (((s.inWorld w).hold h).moveTo .probing).inPhase (.probing none)

/-- Begins a cycle and spawns its backend. -/
def startCycle (s : Session) : Session :=
  match s.machine.beginCycle with
  | .error r => (s.note (.cannotBegin r s.machine.state)).inPhase .hosting
  | .ok m => ((s.withMachine m).note (.cycleBegun m.cycle)).spawnBackend

/-- The held backend's exit, if it can be seen. -/
def backendExit? (s : Session) : Option ExitReport :=
  s.backend.bind fun h => s.world.visibleExit h.child

/-- The held backend's exit, if it has been published. -/
def publishedExit? (s : Session) : Option ExitReport :=
  s.backend.bind fun h => h.exitReport s.world

def backendAlive (s : Session) : Bool := s.backend.any fun h => !h.hasExited s.world

/-- Nothing is left that could ever end a session that goes on. -/
def nothingLeft (s : Session) : Bool :=
  s.config.quitOnLastWindowClosed && s.machine.state == .failed && s.backend.isNone && !s.windowOpen

end Session
end DesktopHost
