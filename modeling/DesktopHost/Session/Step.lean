import DesktopHost.Session.Basic

/-!
The steps of a session. It acts as long as it can; only then does time pass, up to the next
instant at which anything is due. Of several things at one instant a backend's exit comes first,
then a command, then readiness.
-/

set_option autoImplicit false

namespace DesktopHost.Session

/-- Readiness is resolved: the session is ready and shows its window. -/
def becomeReady (s : Session) (signal : ReadinessSignal) (elapsed : Nat) : Session :=
  (((s.note (.readinessResolved signal elapsed)).moveTo .ready).openWindow).inPhase .hosting

def startRace (s : Session) (child : Nat) : Session :=
  (s.inWorld (Race.start s.config.readiness s.world child).1).inPhase
    (.probing (some (Race.start s.config.readiness s.world child).2))

/-- One look at the readiness race, or its beginning. -/
def probeReadiness (s : Session) : Option Race → Option Session
  | none => s.backend.map fun h => s.startRace h.child
  | some race =>
    match race.step s.config.readiness s.world with
    | .blocked => none
    | .moved w race => some ((s.inWorld w).inPhase (.probing (some race)))
    | .resolved w signal => some ((s.inWorld w).becomeReady signal (w.now - race.started))

/-- During startup only an exit, a quit or readiness counts; other commands are taken and ignored. -/
def probe (s : Session) (race : Option Race) : Option Session :=
  match s.backendExit? with
  | some r => some ((s.backendExited r).inPhase .hosting)
  | none =>
    match s.world.receive with
    | (w, .command .quit) => some (s.inWorld w).quit
    | (w, .closed) => some (s.inWorld w).quit
    | (w, .command c) => some ((s.inWorld w).note (.commandIgnored c))
    | (_, .nothing) => s.probeReadiness race

/-- The first look at an old exit on the way to showing the window again. -/
def activate (s : Session) : Session :=
  if s.windowOpen then s.note .activateIgnored
  else
    match s.publishedExit? with
    | some r => (s.backendExited r).inPhase .reviving
    | none => s.inPhase .reviving

/-- The second look: a live backend gets its window back, a gone one is started anew. -/
def revive (s : Session) : Session :=
  if s.backendAlive then s.openWindow.inPhase .hosting
  else (s.note .restarting).startCycle

/-- Without its window the session goes on only where the configuration says so. -/
def afterClosing (s : Session) : Session :=
  if s.config.quitOnLastWindowClosed then s.quit else s

def handleCommand (s : Session) : Command → Session
  | .activate => s.activate
  | .windowClosed => s.closeWindow.afterClosing
  | .quit => s.quit

def host (s : Session) : Option Session :=
  if s.nothingLeft then some (s.note .nothingToHost).finish
  else
    match s.backendExit? with
    | some r => some (s.backendExited r)
    | none =>
      match s.world.receive with
      | (w, .command c) => some ((s.inWorld w).handleCommand c)
      | (w, .closed) => some ((s.inWorld w).note .handlesDropped).quit
      | (_, .nothing) => none

/-- What the session does of its own accord, if anything. -/
def react (s : Session) : Option Session :=
  match s.phase with
  | .launching => some s.startCycle
  | .probing race => s.probe race
  | .hosting => s.host
  | .reviving => some s.revive
  | .finished _ => none

/-- When the session itself wants to go on. -/
def timer? (s : Session) : Option Nat :=
  match s.phase with
  | .probing (some race) => some (race.due s.config.readiness)
  | _ => none

/-- The next instant at which anything is due. -/
def wake? (s : Session) : Option Nat :=
  match s.timer?, s.world.nextDue? with
  | some a, some b => some (min a b)
  | some a, none => some a
  | none, b => b

/-- Lets time pass; a finished session waits for nothing. -/
def wait (s : Session) : Option Session :=
  match s.phase with
  | .finished _ => none
  | _ => s.wake?.map fun t => s.inWorld (s.world.advanceTo t)

/-- One step; `none` when the session is over or nothing will ever happen to it again. -/
def step (s : Session) : Option Session :=
  match s.react with
  | some s' => some s'
  | none => s.wait

end DesktopHost.Session
