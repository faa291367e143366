import DesktopHost.Proofs.Dealings
import DesktopHost.Proofs.Moves

/-!
Two sessions in step: they stand at the same point, past aside, in worlds that they cannot tell
apart. What one does of its own accord, the other does too.
-/

set_option autoImplicit false

namespace DesktopHost

namespace Machine

def after (p : Past) (m : Machine) : Machine := { m with cycle := m.cycle + p.cycles }

theorem advance_after (p : Past) (m : Machine) (next : LifecycleState) :
    (m.after p).advance next = (m.advance next).map (after p) := by
  unfold advance
  rw [show (m.after p).state = m.state from rfl]
  split <;> rfl

theorem fail_after (p : Past) (m : Machine) : (m.after p).fail = (m.fail.1.after p, m.fail.2) := by
  unfold fail
  rw [advance_after]
  cases m.advance .failed <;> rfl

theorem beginCycle_after (p : Past) (m : Machine) :
    (m.after p).beginCycle = m.beginCycle.map (after p) := by
  unfold beginCycle
  rw [show (m.after p).state = m.state from rfl]
  split
  · simp only [Except.map, after]
    congr 2
    omega
  · rfl

end Machine

def Phase.after (p : Past) : Phase → Phase
  | .launching => .launching
  | .probing race => .probing (race.map (Race.after p))
  | .hosting => .hosting
  | .reviving => .reviving
  | .finished t => .finished (t + p.time)

theorem Phase.after_none (phase : Phase) : phase.after .none = phase := by
  cases phase with
  | probing race =>
    cases race with
    | none => rfl
    | some r => exact congrArg (fun x => Phase.probing (some x)) r.after_none
  | _ => rfl

/-- The children that a phase waits for to be ready. -/
def Phase.Listens (phase : Phase) (backend : Option Handle) (i : Nat) : Prop :=
  match phase with
  | .probing none => ∃ b, backend = some b ∧ b.child = i
  | .probing (some race) => race.child = i
  | _ => False

instance (phase : Phase) : Decidable (∃ race, phase = .probing race) :=
  match phase with
  | .probing race => isTrue ⟨race, rfl⟩
  | .launching | .hosting | .reviving | .finished _ => isFalse nofun

instance (phase : Phase) (backend : Option Handle) (i : Nat) :
    Decidable (phase.Listens backend i) :=
  match phase, backend with
  | .probing none, some b => decidable_of_iff (b.child = i) (by simp [Phase.Listens])
  | .probing none, none => isFalse nofun
  | .probing (some race), _ => inferInstanceAs (Decidable (race.child = i))
  | .launching, _ | .hosting, _ | .reviving, _ | .finished _, _ => isFalse id

namespace Session

open World (Same Mirrors Stops)

/-- Wherever they stand, `s` and `r` differ only in what `W` leaves open of their worlds, and in
the past `p`. -/
structure Abreast (p : Past) (markers : List String) (W : World → World → Prop)
    (s r : Session) : Prop where
  config : s.config = r.config
  markers : r.config.readiness.markers = markers
  launch : s.launch = r.launch
  targetUrl : s.targetUrl = r.targetUrl
  world : W s.world r.world
  machine : s.machine = r.machine.after p
  backend : s.backend = r.backend.map (Handle.after p)
  window : s.window = r.window
  shutdown : s.shutdown = r.shutdown
  errors : s.errorsReported = r.errorsReported + p.errors

/-- They also stand at the same point, and what they wait for is heard. -/
structure InStep (p : Past) (markers : List String) (heard : Nat → Prop)
    (W : World → World → Prop) (s r : Session) : Prop extends Abreast p markers W s r where
  phase : s.phase = r.phase.after p
  heard : ∀ i, r.phase.Listens r.backend i → heard i

variable {p : Past} {markers : List String} {heard : Nat → Prop} {W : World → World → Prop}
  {s r : Session}

namespace Abreast

theorem inPhase (h : Abreast p markers W s r) (phase : Phase)
    (hears : ∀ i, phase.Listens r.backend i → heard i) :
    InStep p markers heard W (s.inPhase (phase.after p)) (r.inPhase phase) :=
  { h with
    phase := rfl
    heard := hears }

theorem hosting (h : Abreast p markers W s r) :
    InStep p markers heard W (s.inPhase .hosting) (r.inPhase .hosting) :=
  h.inPhase .hosting fun _ => False.elim

theorem reviving (h : Abreast p markers W s r) :
    InStep p markers heard W (s.inPhase .reviving) (r.inPhase .reviving) :=
  h.inPhase .reviving fun _ => False.elim

theorem inWorld (h : Abreast p markers W s r) {w v : World} (hw : W w v) :
    Abreast p markers W (s.inWorld w) (r.inWorld v) :=
  { h with world := hw }

theorem withMachine (h : Abreast p markers W s r) (m : Machine) :
    Abreast p markers W (s.withMachine (m.after p)) (r.withMachine m) :=
  { h with machine := rfl }

theorem release (h : Abreast p markers W s r) : Abreast p markers W s.release r.release :=
  { h with backend := rfl }

theorem windowOpen (h : Abreast p markers W s r) : s.windowOpen = r.windowOpen :=
  congrArg WindowHost.isOpen h.window

theorem report (h : Abreast p markers W s r) : s.report =
    ⟨r.report.finalState, r.report.errorsReported + p.errors, r.report.cycles + p.cycles⟩ := by
  unfold Session.report
  rw [h.machine, h.errors]
  rfl

theorem nothingLeft (h : Abreast p markers W s r) : s.nothingLeft = r.nothingLeft := by
  unfold Session.nothingLeft
  rw [h.config, h.machine, h.backend, h.windowOpen, Option.isNone_map]
  rfl

variable (hW : Mirrors p markers heard W)

section
include hW

theorem note (h : Abreast p markers W s r) (n : Note) :
    Abreast p markers W (s.note (n.after p)) (r.note n) :=
  h.inWorld (hW.note h.world n)

/-- A record of the state that the machine is in. -/
theorem noteState (h : Abreast p markers W s r) (n : LifecycleState → Note)
    (hn : ∀ state, (n state).after p = n state) :
    Abreast p markers W (s.note (n s.machine.state)) (r.note (n r.machine.state)) := by
  rw [h.machine, show (r.machine.after p).state = r.machine.state from rfl]
  have := h.note hW (n r.machine.state)
  rwa [hn] at this

theorem moveTo (h : Abreast p markers W s r) (next : LifecycleState) :
    Abreast p markers W (s.moveTo next) (r.moveTo next) := by
  unfold Session.moveTo
  rw [h.machine, Machine.advance_after]
  cases r.machine.advance next with
  | ok m => exact (h.withMachine m).note hW (.transition r.machine.state next m.cycle)
  | error e => exact h.note hW (.transitionRejected e r.machine.state)

theorem markFailed (h : Abreast p markers W s r) : Abreast p markers W s.markFailed r.markFailed := by
  unfold Session.markFailed
  rw [h.machine, Machine.fail_after]
  obtain ⟨m, moved⟩ := r.machine.fail
  cases moved with
  | true => exact (h.withMachine m).note hW (.transition r.machine.state .failed m.cycle)
  | false => exact h

theorem showProblem (h : Abreast p markers W s r) (problem : Problem) :
    Abreast p markers W (s.showProblem problem) (r.showProblem problem) := by
  unfold Session.showProblem
  split
  · exact h
  · next d _ =>
    obtain ⟨w, v, panic, hw, hv, hworld⟩ := (hW.showDialog h.world d).exists
    rw [hw, hv]
    cases panic with
    | none =>
      exact { h.inWorld hworld with
        errors := by have := h.errors; dsimp only; omega }
    | some text => exact (h.inWorld hworld).noteState hW (.reporterFailed text) fun _ => rfl

theorem failWith (h : Abreast p markers W s r) (problem : Problem) :
    Abreast p markers W (s.failWith problem) (r.failWith problem) :=
  ((h.noteState hW (.lifecycleFailure problem) fun _ => rfl).markFailed hW).showProblem hW problem

theorem markRunning (h : Abreast p markers W s r) :
    Abreast p markers W s.markRunning r.markRunning := by
  unfold Session.markRunning
  rw [h.machine, show (r.machine.after p).state = r.machine.state from rfl]
  split
  · exact h.moveTo hW .running
  · exact h

theorem openWindow (h : Abreast p markers W s r) : Abreast p markers W s.openWindow r.openWindow := by
  obtain ⟨w, v, ⟨host, creation⟩, hw, hv, hworld⟩ :=
    (WindowHost.same_create hW h.world r.window r.targetUrl).exists
  have hcreated : Abreast p markers W { s.inWorld w with window := host }
      { r.inWorld v with window := host } :=
    { h.inWorld hworld with window := rfl }
  unfold Session.openWindow createWindow
  rw [h.window, h.targetUrl, hw, hv]
  cases creation with
  | created => exact (hcreated.markRunning hW).note hW .initialized
  | alreadyOpen => exact hcreated
  | failed e => exact hcreated.noteState hW (.windowFailed e) fun _ => rfl

theorem closeWindow (h : Abreast p markers W s r) :
    Abreast p markers W s.closeWindow r.closeWindow := by
  obtain ⟨w, v, ⟨host, was⟩, hw, hv, hworld⟩ :=
    (WindowHost.same_close hW h.world r.window).exists
  unfold Session.closeWindow
  rw [h.window, hw, hv]
  exact { h.inWorld hworld with window := rfl }

theorem exitCleanly (h : Abreast p markers W s r) :
    Abreast p markers W s.exitCleanly r.exitCleanly := by
  unfold Session.exitCleanly
  rw [h.machine, show (r.machine.after p).state = r.machine.state from rfl]
  split
  · exact h.markFailed hW
  · exact h.markFailed hW
  · exact h

theorem judgeExit (h : Abreast p markers W s r) (b : Handle) (x : ExitReport) :
    Abreast p markers W (s.judgeExit (b.after p) x) (r.judgeExit b x) := by
  unfold Session.judgeExit
  rw [show (b.after p).terminationRequested = b.terminationRequested from rfl]
  split
  · exact h.note hW (.exitedAfterRequest b.pid x)
  · split
    · exact (h.noteState hW (.exitedCleanly b.pid) fun _ => rfl).exitCleanly hW
    · exact h.failWith hW (.prematureExit x.code)

theorem backendExited (h : Abreast p markers W s r) (x : ExitReport) :
    Abreast p markers W (s.backendExited x) (r.backendExited x) := by
  unfold Session.backendExited
  rw [h.backend]
  cases r.backend with
  | none => exact h
  | some b => exact h.release.judgeExit hW b x

theorem beginShutdown (h : Abreast p markers W s r) :
    Abreast p markers W s.beginShutdown r.beginShutdown := by
  unfold Session.beginShutdown
  rw [h.machine, show (r.machine.after p).state = r.machine.state from rfl]
  split
  · exact h
  · exact h.moveTo hW .shuttingDown

theorem endShutdown (h : Abreast p markers W s r) :
    Abreast p markers W s.endShutdown r.endShutdown := by
  unfold Session.endShutdown
  rw [h.machine, show (r.machine.after p).state = r.machine.state from rfl]
  split
  · exact h.moveTo hW .terminated
  · exact h

theorem finish (h : Abreast p markers W s r) : InStep p markers heard W s.finish r.finish :=
  { h with
    world := hW.deafen h.world
    phase := congrArg Phase.finished (hW.now h.world)
    heard := fun _ => False.elim }

theorem stopBackend (hS : Stops p W) (h : Abreast p markers W s r) :
    Abreast p markers W s.stopBackend r.stopBackend := by
  have hstopped {w v : World} (hworld : W w v) (d : Shutdown) :
      Abreast p markers W { s.release.inWorld w with shutdown := d }
        { r.release.inWorld v with shutdown := d } :=
    { h with
      world := hworld
      backend := rfl
      shutdown := rfl }
  unfold Session.stopBackend
  rw [h.backend, h.shutdown]
  cases r.backend with
  | none => exact h
  | some b =>
    dsimp only [Option.map_some]
    unfold Shutdown.stop
    split
    · exact (hstopped (hW.note h.world (.shutdownSkipped b.pid)) r.shutdown).note hW
        (.shutdownFinished .skipped)
    · obtain ⟨w, v, outcome, hw, hv, hworld⟩ :=
        (Shutdown.same_escalate hW hS h.world b.requestTermination r.shutdown.grace).exists
      dsimp only
      rw [show (b.after p).requestTermination = b.requestTermination.after p from rfl, hw, hv]
      exact (hstopped hworld _).note hW (.shutdownFinished outcome)

theorem quit (hS : Stops p W) (h : Abreast p markers W s r) :
    InStep p markers heard W s.quit r.quit :=
  ((((h.noteState hW .quitRequested fun _ => rfl).beginShutdown hW).stopBackend hW hS
    ).endShutdown hW).finish hW

theorem spawnBackend (h : Abreast p markers W s r) :
    InStep p markers heard W s.spawnBackend r.spawnBackend := by
  obtain ⟨hworld, hresult⟩ := hW.spawnBackend h.world r.launch
  have hears := hW.hears h.world r.launch
  have hmarkers := h.markers
  unfold Session.spawnBackend
  rw [h.launch, h.config, hmarkers]
  generalize s.world.spawnBackend r.launch markers = x at hworld hresult
  generalize r.world.spawnBackend r.launch markers = y at hworld hresult hears
  obtain ⟨w, result⟩ := x
  obtain ⟨v, result'⟩ := y
  cases result' with
  | error problem =>
    cases hresult
    exact ((h.inWorld hworld).failWith hW problem).hosting
  | ok b =>
    cases hresult
    have hheld : Abreast p markers W ((s.inWorld w).hold (b.after p)) ((r.inWorld v).hold b) :=
      { h.inWorld hworld with backend := rfl }
    refine (hheld.moveTo hW .probing).inPhase (.probing none) fun i hi => ?_
    obtain ⟨b', hb', rfl⟩ := hi
    rw [(((r.inWorld v).hold b).moveTo_keeps .probing).backend] at hb'
    cases hb'
    exact hears b rfl

theorem startCycle (h : Abreast p markers W s r) :
    InStep p markers heard W s.startCycle r.startCycle := by
  unfold Session.startCycle
  rw [h.machine, Machine.beginCycle_after]
  cases r.machine.beginCycle with
  | error e => exact (h.note hW (.cannotBegin e r.machine.state)).hosting
  | ok m => exact ((h.withMachine m).note hW (.cycleBegun m.cycle)).spawnBackend hW

theorem backendExit? (h : Abreast p markers W s r) : s.backendExit? = r.backendExit? := by
  unfold Session.backendExit?
  rw [h.backend]
  cases r.backend with
  | none => rfl
  | some b => exact hW.visibleExit h.world b.child

theorem publishedExit? (h : Abreast p markers W s r) : s.publishedExit? = r.publishedExit? := by
  unfold Session.publishedExit?
  rw [h.backend]
  cases r.backend with
  | none => rfl
  | some b => exact hW.publishedExit h.world b.child

theorem backendAlive (h : Abreast p markers W s r) : s.backendAlive = r.backendAlive := by
  unfold Session.backendAlive
  rw [h.backend]
  cases r.backend with
  | none => rfl
  | some b =>
    exact congrArg (fun x : Option ExitReport => !x.isSome) (hW.publishedExit h.world b.child)

end
end Abreast

/-- The session is over with this. -/
def IsOver (s : Session) : Prop := ∃ t, s.phase = .finished t

theorem isOver_quit (s : Session) : s.quit.IsOver := s.quit_phase

namespace InStep

/-- What leaves both where they stand. -/
theorem stay (h : InStep p markers heard W s r) {s' r' : Session} (h' : Abreast p markers W s' r')
    (hs : s'.phase = s.phase) (hr : r'.phase = r.phase) (hb : r'.backend = r.backend) :
    InStep p markers heard W s' r' :=
  { h' with
    phase := by rw [hs, hr, h.phase]
    heard := by rw [hr, hb]; exact h.heard }

/-- Outside startup nothing is listened for. -/
theorem stayHosting (h : InStep p markers heard W s r) (hp : r.phase = .hosting) {s' r' : Session}
    (h' : Abreast p markers W s' r') (hs : s'.phase = s.phase) (hr : r'.phase = r.phase) :
    InStep p markers heard W s' r' :=
  { h' with
    phase := by rw [hs, hr, h.phase]
    heard := fun i hi => by rw [hr, hp] at hi; exact hi.elim }

variable (hW : Mirrors p markers heard W)
include hW

theorem probeReadiness (h : InStep p markers heard W s r) {race : Option Race}
    (hp : r.phase = .probing race) :
    Option.Rel (InStep p markers heard W) (s.probeReadiness (race.map (Race.after p)))
      (r.probeReadiness race) := by
  have hears := h.heard
  rw [hp] at hears
  cases race with
  | none =>
    dsimp only [Session.probeReadiness, Option.map_none]
    rw [h.backend]
    cases hb : r.backend with
    | none => exact .none
    | some b =>
      obtain ⟨hworld, hrace⟩ := Race.related_start hW h.world r.config.readiness b.child
      refine .some ?_
      change InStep p markers heard W (s.startRace (b.child + p.children)) (r.startRace b.child)
      unfold startRace
      rw [h.config, hrace]
      refine (h.inWorld hworld).inPhase (.probing (some _)) fun i hi => hears i ?_
      exact ⟨b, hb, hi⟩
  | some race =>
    have hstep := Race.same_step hW h.world r.config.readiness race (hears race.child rfl)
    have hchild : ∀ v race', race.step r.config.readiness r.world = .moved v race' →
        race'.child = race.child := by
      intro v race' hm
      obtain ⟨-, poll, -, rfl⟩ := Race.step_eq_moved hm
      rfl
    dsimp only [Session.probeReadiness, Option.map_some]
    rw [h.config]
    generalize (race.after p).step r.config.readiness s.world = x at hstep
    generalize race.step r.config.readiness r.world = y at hstep hchild
    cases hstep with
    | blocked => exact .none
    | moved race' hworld =>
      refine .some ((h.inWorld hworld).inPhase (.probing (some race')) fun i hi => hears i ?_)
      exact (hchild _ race' rfl).symm.trans hi
    | resolved signal hworld =>
      refine .some ?_
      unfold becomeReady
      rw [Race.elapsed_after (hW.now hworld)]
      exact ((((h.inWorld hworld).note hW (.readinessResolved signal _)).moveTo hW .ready
        ).openWindow hW).hosting

theorem probe (h : InStep p markers heard W s r) {race : Option Race}
    (hp : r.phase = .probing race)
    (hS : ∀ s', s.probe (race.map (Race.after p)) = some s' → s'.IsOver → Stops p W) :
    Option.Rel (InStep p markers heard W) (s.probe (race.map (Race.after p))) (r.probe race) := by
  unfold Session.probe at hS ⊢
  rw [h.backendExit? hW] at hS ⊢
  split
  · next x _ => exact .some (h.backendExited hW x).hosting
  · next hx =>
    obtain ⟨w, v, received, hw, hv, hworld⟩ := (hW.receive h.world).exists
    rw [hx] at hS
    rw [hw] at hS ⊢
    rw [hv]
    cases received with
    | nothing => exact h.probeReadiness hW hp
    | closed => exact .some ((h.inWorld hworld).quit hW (hS _ rfl (isOver_quit _)))
    | command c =>
      cases c with
      | quit => exact .some ((h.inWorld hworld).quit hW (hS _ rfl (isOver_quit _)))
      | activate =>
        exact .some (h.stay ((h.inWorld hworld).note hW (.commandIgnored .activate)) rfl rfl rfl)
      | windowClosed =>
        exact .some
          (h.stay ((h.inWorld hworld).note hW (.commandIgnored .windowClosed)) rfl rfl rfl)

theorem activate (h : InStep p markers heard W s r) (hp : r.phase = .hosting) :
    InStep p markers heard W s.activate r.activate := by
  unfold Session.activate
  rw [h.windowOpen, h.publishedExit? hW]
  split
  · exact h.stayHosting hp (h.note hW .activateIgnored) rfl rfl
  · split
    · next x _ => exact (h.backendExited hW x).reviving
    · exact h.reviving

theorem handleCommand (h : InStep p markers heard W s r) (hp : r.phase = .hosting) (c : Command)
    (hS : (s.handleCommand c).IsOver → Stops p W) :
    InStep p markers heard W (s.handleCommand c) (r.handleCommand c) := by
  cases c with
  | activate => exact h.activate hW hp
  | quit => exact h.quit hW (hS (isOver_quit _))
  | windowClosed =>
    have hclosed := h.closeWindow hW
    simp only [Session.handleCommand, afterClosing] at hS ⊢
    rw [hclosed.config] at hS ⊢
    split
    · next hq =>
      rw [if_pos hq] at hS
      exact hclosed.quit hW (hS (isOver_quit _))
    · exact h.stayHosting hp hclosed rfl rfl

theorem host (h : InStep p markers heard W s r) (hp : r.phase = .hosting)
    (hS : ∀ s', s.host = some s' → s'.IsOver → Stops p W) :
    Option.Rel (InStep p markers heard W) s.host r.host := by
  unfold Session.host at hS ⊢
  rw [h.nothingLeft, h.backendExit? hW] at hS ⊢
  split
  · exact .some ((h.note hW .nothingToHost).finish hW)
  · next hl =>
    rw [if_neg hl] at hS
    split
    · next x _ =>
      exact .some (h.stayHosting hp (h.backendExited hW x) (s.backendExited_keeps x).phase
        (r.backendExited_keeps x).phase)
    · next hx =>
      obtain ⟨w, v, received, hw, hv, hworld⟩ := (hW.receive h.world).exists
      rw [hx] at hS
      rw [hw] at hS ⊢
      rw [hv]
      cases received with
      | nothing => exact .none
      | closed =>
        exact .some (((h.inWorld hworld).note hW .handlesDropped).quit hW
          (hS _ rfl (isOver_quit _)))
      | command c =>
        exact .some ((h.stayHosting hp (h.inWorld hworld) rfl rfl).handleCommand hW hp c
          (hS _ rfl))

theorem revive (h : InStep p markers heard W s r) :
    InStep p markers heard W s.revive r.revive := by
  unfold Session.revive
  rw [h.backendAlive hW]
  split
  · exact (h.openWindow hW).hosting
  · exact (h.note hW .restarting).startCycle hW

/-- What one does of its own accord, the other does too. If the one is over then, its world must be
one to stop a backend in. -/
theorem react (h : InStep p markers heard W s r)
    (hS : ∀ s', s.react = some s' → s'.IsOver → Stops p W) :
    Option.Rel (InStep p markers heard W) s.react r.react := by
  have hphase := h.phase
  unfold Session.react at hS ⊢
  rw [hphase] at hS ⊢
  cases hp : r.phase with
  | launching => exact .some (h.startCycle hW)
  | probing race => rw [hp] at hS; exact h.probe hW hp hS
  | hosting => rw [hp] at hS; exact h.host hW hp hS
  | reviving => exact .some (h.revive hW)
  | finished t => exact .none

omit hW

/-- A session is over when the other is. -/
theorem isOver_iff (h : InStep p markers heard W s r) : s.IsOver ↔ r.IsOver := by
  unfold IsOver
  rw [h.phase]
  cases r.phase <;> simp [Phase.after]

theorem finishedAt? (h : InStep p markers heard W s r) :
    s.finishedAt? = r.finishedAt?.map (· + p.time) := by
  unfold Session.finishedAt?
  rw [h.phase]
  cases r.phase <;> rfl

theorem timer? (h : InStep p markers heard W s r) : s.timer? = r.timer?.map (· + p.time) := by
  unfold Session.timer?
  rw [h.phase, h.config]
  cases r.phase with
  | probing race =>
    cases race with
    | none => rfl
    | some race => exact congrArg some (Race.due_after p _ race)
  | _ => rfl

end InStep
end Session
end DesktopHost
