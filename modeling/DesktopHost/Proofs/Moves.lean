import DesktopHost.Proofs.Opening
import DesktopHost.Proofs.Promptness

/-!
What kind of step a session makes. One kind handles a quit, one asks for the window, and no other
signals a child, quits or asks for a window; and time passes only in a quit or a wait.
-/

set_option autoImplicit false

namespace DesktopHost

/-- No part in an end, and no window asked for. -/
def Event.isMild : Event → Bool
  | .signal .. | .openWindow _ | .note (.quitRequested _) => false
  | _ => true

def Mild (es : List Event) : Prop := ∀ e ∈ es, e.isMild = true

theorem mild_nil : Mild [] := by simp [Mild]

theorem mild_single {e : Event} (h : e.isMild = true) : Mild [e] := by simpa [Mild] using h

theorem Mild.append {es fs : List Event} (h : Mild es) (h' : Mild fs) : Mild (es ++ fs) := by
  intro e he
  rcases List.mem_append.1 he with he | he
  · exact h e he
  · exact h' e he

theorem World.Later.unique {w w' : World} {es fs : List Event} (h : w.Later es w')
    (h' : w.Later fs w') : es = fs :=
  List.append_cancel_right (h.acts.symm.trans h'.acts)

/-- From `w` to `w'` at most a command has been taken from the queue. -/
structure World.Taken (w w' : World) : Prop where
  now : w'.now = w.now
  agenda : w'.agenda = w.agenda
  children : w'.children = w.children
  handleHeld : w'.handleHeld = w.handleHeld
  listening : w'.listening = w.listening
  health : w'.health = w.health
  trace : w'.trace = w.trace

theorem World.Taken.atOnce {w w' : World} (h : w.Taken w') : w.AtOnce w' :=
  .of_eq h.now h.agenda

theorem World.taken_receive {w w' : World} {r : World.Received} (h : w.receive = (w', r)) :
    w.Taken w' := by
  unfold World.receive at h
  split at h
  · cases h
    exact ⟨rfl, rfl, rfl, rfl, rfl, rfl, rfl⟩
  · split at h <;> cases h <;> exact ⟨rfl, rfl, rfl, rfl, rfl, rfl, rfl⟩

namespace Session

/-- The session handles a quit now: a command to quit, the last window closed where that counts
as one, or nobody left to send a command. An exit it can see comes first. -/
def StartsQuitting (s : Session) : Prop :=
  s.noticed? = none ∧
    match s.phase with
    | .probing _ => s.world.receive.2 = .command .quit ∨ s.world.receive.2 = .closed
    | .hosting => s.nothingLeft = false ∧
      (s.world.receive.2 = .command .quit ∨ s.world.receive.2 = .closed ∨
        s.world.receive.2 = .command .windowClosed ∧ s.config.quitOnLastWindowClosed = true)
    | _ => False

/-- The session handles the end of its window now, outside startup. -/
def ClosesWindow (s : Session) : Prop :=
  s.phase = .hosting ∧ s.nothingLeft = false ∧ s.backendExit? = none ∧
    s.world.receive.2 = .command .windowClosed

/-- A session about to quit: it has taken its command, and left everything else as it was. -/
structure AboutToQuit (s s₁ : Session) : Prop where
  machine : s₁.machine = s.machine
  backend : s₁.backend = s.backend
  shutdown : s₁.shutdown = s.shutdown
  window : s₁.window = s.window ∨ s.ClosesWindow
  now : s₁.world.now = s.world.now
  children : s₁.world.children = s.world.children
  record : s₁.world.trace = s.world.trace ∨
    ∃ n, (n = .handlesDropped ∨ n = .windowClosed) ∧
      s₁.world.trace = (s.world.now, .note n) :: s.world.trace

/-- `s` has come to the point, as `s₁`, where it asks for its window. -/
structure Gate (s : Session) (b : Handle) (s₁ : Session) : Prop where
  held : s.backend = some b
  holds : s₁.backend = some b
  alive : b.exitReport s₁.world = none
  closed : s₁.windowOpen = false
  upright : s₁.machine.state = .ready ∨ s₁.machine.state = .running
  cycle : s₁.machine.cycle = s.machine.cycle
  window : s₁.window = s.window
  shutdown : s₁.shutdown = s.shutdown
  atOnce : s.world.AtOnce s₁.world
  children : s₁.world.children = s.world.children
  way : s.phase = .reviving ∧ s₁ = s ∨
    ∃ race signal elapsed, s.phase = .probing race ∧ s₁.machine.state = .ready ∧
      Account s [s.stepTo .ready, .note (.readinessResolved signal elapsed)] s₁

/-- What one step is. -/
inductive Move (s : Session) (es : List Event) (s' : Session) : Prop where
  | quits (s₁ : Session) (starts : s.StartsQuitting) (about : s.AboutToQuit s₁)
      (eq : s' = s₁.quit)
  | opens (b : Handle) (s₁ : Session) (idle : ¬s.StartsQuitting) (gate : s.Gate b s₁)
      (eq : s' = s₁.openWindow.inPhase .hosting)
  | waits (t : Nat) (idle : ¬s.StartsQuitting) (unready : s.react = none) (mild : Mild es)
      (eq : s' = s.inWorld (s.world.advanceTo t))
  | other (idle : ¬s.StartsQuitting) (mild : Mild es) (atOnce : s.world.AtOnce s'.world)
      (shutdown : s'.shutdown = s.shutdown)
      (window : s'.window = s.window ∨ s.ClosesWindow)
      (kept : s'.phase = .hosting ∨ s'.phase = .reviving → s'.backend.isSome = true →
        s.phase = .hosting ∧ s'.backend = s.backend ∧ s'.machine.cycle = s.machine.cycle)

variable {s s' : Session}

theorem startsQuitting_probing {race : Option Race} (hp : s.phase = .probing race) :
    s.StartsQuitting ↔ s.backendExit? = none ∧
      (s.world.receive.2 = .command .quit ∨ s.world.receive.2 = .closed) := by
  unfold StartsQuitting
  rw [noticed?_probing hp, hp]

theorem startsQuitting_hosting (hp : s.phase = .hosting) :
    s.StartsQuitting ↔ s.backendExit? = none ∧ s.nothingLeft = false ∧
      (s.world.receive.2 = .command .quit ∨ s.world.receive.2 = .closed ∨
        s.world.receive.2 = .command .windowClosed ∧ s.config.quitOnLastWindowClosed = true) := by
  unfold StartsQuitting
  rw [noticed?_hosting hp, hp]

theorem not_startsQuitting_launching (hp : s.phase = .launching) : ¬s.StartsQuitting := by
  unfold StartsQuitting
  rw [hp]
  exact fun h => h.2

theorem not_startsQuitting_reviving (hp : s.phase = .reviving) : ¬s.StartsQuitting := by
  unfold StartsQuitting
  rw [hp]
  exact fun h => h.2

theorem not_startsQuitting_finished {t : Nat} (hp : s.phase = .finished t) :
    ¬s.StartsQuitting := by
  unfold StartsQuitting
  rw [hp]
  exact fun h => h.2

theorem aboutToQuit_inWorld {w : World} (ht : s.world.Taken w) : s.AboutToQuit (s.inWorld w) :=
  ⟨rfl, rfl, rfl, .inl rfl, ht.now, ht.children, .inl ht.trace⟩

theorem aboutToQuit_handlesDropped {w : World} (ht : s.world.Taken w) :
    s.AboutToQuit ((s.inWorld w).note .handlesDropped) := by
  refine ⟨rfl, rfl, rfl, .inl rfl, ht.now, ht.children, .inr ⟨_, .inl rfl, ?_⟩⟩
  change (w.now, _) :: w.trace = _
  rw [ht.now, ht.trace]

theorem aboutToQuit_closeWindow {w : World} (ht : s.world.Taken w) (hc : s.ClosesWindow) :
    s.AboutToQuit (s.inWorld w).closeWindow := by
  have hw : (s.inWorld w).closeWindow.world = if s.window.isOpen then w.note .windowClosed else w :=
    rfl
  cases ho : s.window.isOpen with
  | false =>
    rw [ho, if_neg Bool.false_ne_true] at hw
    refine ⟨rfl, rfl, rfl, .inr hc, ?_, ?_, .inl ?_⟩
    · rw [hw, ht.now]
    · rw [hw, ht.children]
    · rw [hw, ht.trace]
  | true =>
    rw [ho, if_pos rfl] at hw
    refine ⟨rfl, rfl, rfl, .inr hc, ?_, ?_, .inr ⟨_, .inr rfl, ?_⟩⟩
    · rw [hw]
      exact ht.now
    · rw [hw]
      exact ht.children
    · rw [hw]
      change (w.now, _) :: w.trace = _
      rw [ht.now, ht.trace]

/-- What startup does with what it has received. -/
def probeWith (s : Session) (race : Option Race) (w : World) : World.Received → Option Session
  | .command .quit | .closed => some (s.inWorld w).quit
  | .command c => some ((s.inWorld w).note (.commandIgnored c))
  | .nothing => s.probeReadiness race

/-- What the main loop does with what it has received. -/
def hostWith (s : Session) (w : World) : World.Received → Option Session
  | .command c => some ((s.inWorld w).handleCommand c)
  | .closed => some ((s.inWorld w).note .handlesDropped).quit
  | .nothing => none

theorem react_probing {race : Option Race} (hp : s.phase = .probing race)
    (he : s.backendExit? = none) {w : World} {r : World.Received}
    (hw : s.world.receive = (w, r)) :
    s.react = s.probeWith race w r := by
  unfold react probe
  rw [hp]
  dsimp only
  rw [he]
  dsimp only
  rw [hw]
  cases r with
  | command c => cases c <;> rfl
  | _ => rfl

theorem react_hosting (hp : s.phase = .hosting) (hl : s.nothingLeft = false)
    (he : s.backendExit? = none) {w : World} {r : World.Received}
    (hw : s.world.receive = (w, r)) :
    s.react = s.hostWith w r := by
  unfold react host
  rw [hp]
  dsimp only
  rw [hl, he]
  dsimp only
  rw [hw]
  cases r <;> rfl

/-- Where a quit is to be handled, the step is to quit. -/
theorem react_of_startsQuitting (h : s.StartsQuitting) :
    ∃ s₁, s.react = some s₁.quit ∧ s.AboutToQuit s₁ := by
  cases hw : s.world.receive with
  | mk w r =>
    have ht := World.taken_receive hw
    cases hp : s.phase with
    | launching => exact absurd h (not_startsQuitting_launching hp)
    | reviving => exact absurd h (not_startsQuitting_reviving hp)
    | finished => exact absurd h (not_startsQuitting_finished hp)
    | probing race =>
      obtain ⟨he, hr⟩ := (startsQuitting_probing hp).1 h
      rw [hw] at hr
      refine ⟨s.inWorld w, ?_, aboutToQuit_inWorld ht⟩
      rw [react_probing hp he hw]
      rcases hr with rfl | rfl <;> rfl
    | hosting =>
      obtain ⟨he, hl, hr⟩ := (startsQuitting_hosting hp).1 h
      have hreact := react_hosting hp hl he hw
      rw [hw] at hr
      rcases hr with rfl | rfl | ⟨rfl, hquit⟩
      · exact ⟨_, hreact, aboutToQuit_inWorld ht⟩
      · exact ⟨_, hreact, aboutToQuit_handlesDropped ht⟩
      · have hc : s.ClosesWindow := ⟨hp, hl, he, by rw [hw]⟩
        refine ⟨_, ?_, aboutToQuit_closeWindow ht hc⟩
        rw [hreact]
        dsimp only [hostWith, handleCommand, afterClosing]
        rw [if_pos (show (s.inWorld w).closeWindow.config.quitOnLastWindowClosed = true from hquit)]

theorem mild_markRunning (hm : s.machine.state = .ready ∨ s.machine.state = .running) :
    ∃ es, Aside s es s.markRunning ∧ Mild es ∧
      s.markRunning.machine = ⟨.running, s.machine.cycle⟩ := by
  unfold markRunning
  rcases hm with hr | hr
  · obtain ⟨ha, hm'⟩ := s.aside_moveTo (t := .running) (by rw [hr]; rfl)
    rw [if_pos hr]
    exact ⟨_, ha, mild_single rfl, hm'⟩
  · rw [if_neg (by rw [hr]; decide)]
    exact ⟨[], s.aside_refl, mild_nil, by rw [← hr]⟩

/-- Asking for the window: the one act, and the step to running if it comes and was not made. -/
theorem account_asks (hw : s.windowOpen = false)
    (hm : s.machine.state = .ready ∨ s.machine.state = .running) :
    ∃ after, Account s (after ++ [.openWindow s.targetUrl]) s.openWindow ∧ Mild after ∧
      ((s.world.openWindow s.targetUrl).2.isOk = true ∧ s.openWindow.windowOpen = true ∧
          s.openWindow.machine = ⟨.running, s.machine.cycle⟩ ∨
        (s.world.openWindow s.targetUrl).2.isOk = false ∧ s.openWindow.windowOpen = false ∧
          s.openWindow.machine = s.machine) := by
  have hl := s.world.later_openWindow s.targetUrl
  have ho : ¬s.window.isOpen = true := by
    rw [show s.window.isOpen = false from hw]
    exact Bool.false_ne_true
  unfold openWindow createWindow WindowHost.create
  rw [if_neg ho]
  dsimp only
  cases hr : s.world.openWindow s.targetUrl with
  | mk w res =>
    rw [hr] at hl
    have ha (win : WindowHost) :
        Account s [.openWindow s.targetUrl] { s.inWorld w with window := win } :=
      ⟨rfl, rfl, rfl, hl, rfl, rfl⟩
    cases res with
    | error e =>
      exact ⟨[], (ha s.window).quietly (aside_note _ rfl).toAccount, mild_nil,
        .inr ⟨rfl, hw, rfl⟩⟩
    | ok u =>
      dsimp only
      obtain ⟨after, h₁, hmild, hm₁⟩ :=
        mild_markRunning (s := { s.inWorld w with window := ⟨true⟩ }) hm
      have h₂ := h₁.quietly (aside_note (n := .initialized) _ rfl)
      exact ⟨after, (ha ⟨true⟩).trans h₂.toAccount, hmild,
        .inl ⟨rfl, congrArg WindowHost.isOpen h₂.window, hm₁⟩⟩

/-- What a step that does not handle a quit does, with its account. -/
def Goes (s s' : Session) : Prop := ∃ es, Account s es s' ∧ Move s es s'

theorem goes_calmly {es : List Event} (idle : ¬s.StartsQuitting) (h : Account s es s')
    (mild : Mild es) (atOnce : s.world.AtOnce s'.world) (shutdown : s'.shutdown = s.shutdown)
    (window : s'.window = s.window ∨ s.ClosesWindow)
    (kept : s'.phase = .hosting ∨ s'.phase = .reviving → s'.backend.isSome = true →
      s.phase = .hosting ∧ s'.backend = s.backend ∧ s'.machine.cycle = s.machine.cycle) :
    Goes s s' := ⟨es, h, .other idle mild atOnce shutdown window kept⟩

theorem mild_crashActs (r : ExitReport) : Mild (crashActs r) := by
  intro e he
  rw [(mem_crashActs he).1]
  rfl

theorem LaunchFails.mild {es : List Event} (h : LaunchFails s es s') : Mild es := by
  obtain ⟨d, call, rfl, -, ⟨rfl, -⟩ | ⟨l, rfl, -⟩⟩ := h.acts <;> simp [Mild, Event.isMild]

theorem Launches.mild {es : List Event} {b : Handle} (h : Launches s es s' b) : Mild es := by
  obtain ⟨l, rfl⟩ := h.acts
  simp [Mild, Event.isMild]

theorem goes_startCycle {s₀ : Session} (idle : ¬s₀.StartsQuitting) (ha : Aside s₀ [] s)
    (hat : s₀.world.AtOnce s.world) (hb : s₀.backend = none)
    (hm : s₀.machine.state.mayBegin = true) :
    Goes s₀ s.startCycle := by
  obtain ⟨es, hf | ⟨b, hl⟩⟩ :=
    s.account_startCycle (ha.backend.trans hb) (by rw [ha.machine_eq]; exact hm)
  · replace hf := hf.after ha
    refine goes_calmly idle hf.account hf.mild (hat.trans s.atOnce_startCycle) hf.shutdown
      (.inl hf.window) fun _ hsome => ?_
    rw [hf.backend] at hsome
    cases hsome
  · replace hl := hl.after ha
    refine goes_calmly idle hl.account hl.mild (hat.trans s.atOnce_startCycle) hl.shutdown
      (.inl hl.window) fun hphase _ => ?_
    rw [hl.phase] at hphase
    rcases hphase with h | h <;> cases h

theorem goes_exit {es : List Event} {b : Handle} {r : ExitReport} {p : Phase}
    (idle : ¬s.StartsQuitting) (hb : s.backend = some b)
    (hj : Aside s.release es (s.release.judgeExit b r)) (mild : Mild es)
    (hs : s' = s.backendExited r ∨ s' = (s.backendExited r).inPhase p) : Goes s s' := by
  obtain ⟨-, ha, hnone, hw, hsh⟩ := s.account_backendExited hb hj
  rcases hs with rfl | rfl
  · refine goes_calmly idle ha mild (s.atOnce_backendExited r) hsh (.inl hw) fun _ hsome => ?_
    rw [hnone] at hsome
    cases hsome
  · refine goes_calmly idle (ha.inPhase p) mild (s.atOnce_backendExited r) hsh (.inl hw)
      fun _ hsome => ?_
    have hnone : ((s.backendExited r).inPhase p).backend = none := hnone
    rw [hnone] at hsome
    cases hsome

theorem goes_aside (idle : ¬s.StartsQuitting) (ha : Aside s [] s')
    (hat : s.world.AtOnce s'.world)
    (hp : s'.phase = .hosting ∨ s'.phase = .reviving → s.phase = .hosting) : Goes s s' :=
  goes_calmly idle ha.toAccount mild_nil hat ha.shutdown (.inl ha.window) fun h _ =>
    ⟨hp h, ha.backend, by rw [ha.machine_eq]⟩

theorem alive_of_unseen {b : Handle} (hb : s.backend = some b) (he : s.backendExit? = none) :
    b.exitReport s.world = none := by
  rw [backendExit?, hb, Option.bind_some] at he
  cases hx : b.exitReport s.world with
  | none => rfl
  | some r =>
    rw [World.visibleExit_of_published _ hx] at he
    cases he

/-- Where the race is resolved, the session comes ready to the point where it asks. -/
theorem gate_of_resolved {race : Race} {w : World} {signal : ReadinessSignal} {b : Handle}
    (hp : s.phase = .probing (some race)) (h : s.StartingUp) (hb : s.backend = some b)
    (he : s.backendExit? = none)
    (hr : race.step s.config.readiness s.world = .resolved w signal) {s₁ : Session}
    (hs : s₁ = ((s.inWorld w).note (.readinessResolved signal (w.now - race.started))).moveTo
      .ready) :
    Gate s b s₁ ∧ s₁.machine = ⟨.ready, s.machine.cycle⟩ ∧
      Account s [s.stepTo .ready, .note (.readinessResolved signal (w.now - race.started))]
        s₁ := by
  subst hs
  have hw := Race.watched_of_resolved hr
  have h₁ := s.aside_inWorld (Race.later_of_resolved hr)
  have h₂ := (s.inWorld w).aside_record
    (n := .readinessResolved signal (w.now - race.started)) rfl rfl
  have hlead : ((s.inWorld w).note (.readinessResolved signal
      (w.now - race.started))).machine.state.leadsTo .ready = true := by
    change s.machine.state.leadsTo .ready = true
    rw [h.state]
    rfl
  obtain ⟨h₃, hm₃⟩ := aside_moveTo _ hlead
  have ha := (h₁.trans h₂).trans h₃
  have hchildren : (((s.inWorld w).note (.readinessResolved signal
      (w.now - race.started))).moveTo .ready).world.children = s.world.children := by
    unfold moveTo
    split <;> exact hw.children
  have hat : s.world.AtOnce (((s.inWorld w).note (.readinessResolved signal
      (w.now - race.started))).moveTo .ready).world :=
    (hw.atOnce.trans (atOnce_note (s.inWorld w) _)).trans (atOnce_moveTo _ _)
  have halive := alive_of_unseen hb he
  refine ⟨⟨hb, ha.backend.trans hb, ?_, (congrArg WindowHost.isOpen ha.window).trans h.closed,
    .inl (by rw [hm₃]), by rw [hm₃]; rfl, ha.window, ha.shutdown, hat, hchildren,
    .inr ⟨_, signal, w.now - race.started, hp, by rw [hm₃], ha.toAccount⟩⟩, hm₃, ha.toAccount⟩
  simp only [Handle.exitReport, World.publishedExit, World.child?] at halive ⊢
  rw [hchildren]
  exact halive

theorem goes_probeReadiness {race : Option Race} (idle : ¬s.StartsQuitting)
    (hp : s.phase = .probing race) (h : s.StartingUp) (he : s.backendExit? = none)
    (hs : s.probeReadiness race = some s') : Goes s s' := by
  unfold probeReadiness at hs
  split at hs
  · obtain ⟨b, -, rfl⟩ := Option.map_eq_some_iff.1 hs
    have hl : s.world.Later [] (Race.start s.config.readiness s.world b.child).1 :=
      s.world.later_startCheck
    exact goes_calmly idle ((s.aside_inWorld hl).toAccount.inPhase _) mild_nil
      s.world.watched_startCheck.atOnce rfl (.inl rfl)
      fun hphase _ => by rcases hphase with h | h <;> cases h
  · next race =>
    split at hs
    · cases hs
    · next w r hr =>
      cases hs
      exact goes_calmly idle ((s.aside_inWorld (Race.later_of_moved hr)).toAccount.inPhase _)
        mild_nil (Race.watched_of_moved hr).atOnce rfl (.inl rfl)
        fun hphase _ => by rcases hphase with h | h <;> cases h
    · next w signal hr =>
      cases hs
      obtain ⟨b, hb⟩ := Option.isSome_iff_exists.1 h.held
      obtain ⟨hgate, -, hacc⟩ := gate_of_resolved hp h hb he hr rfl
      obtain ⟨es, ho, -⟩ := account_openWindow _ hgate.closed hgate.upright
      exact ⟨_, (hacc.trans ho).inPhase _, .opens b _ idle hgate rfl⟩

theorem goes_probe {race : Option Race} (idle : ¬s.StartsQuitting)
    (hp : s.phase = .probing race) (h : s.StartingUp) (hs : s.react = some s') : Goes s s' := by
  cases he : s.backendExit? with
  | some r =>
    obtain ⟨b, hb, -⟩ := held_of_backendExit he
    obtain ⟨hj, -⟩ := s.release.aside_judgeExit_probing r (h.unasked b hb) h.state
    have hs' : s' = (s.backendExited r).inPhase .hosting := by
      unfold react probe at hs
      rw [hp] at hs
      dsimp only at hs
      rw [he] at hs
      exact (Option.some.inj hs).symm
    exact goes_exit idle hb hj ((mild_crashActs r).append (mild_single rfl)) (.inr hs')
  | none =>
    cases hw : s.world.receive with
    | mk w received =>
      have hq := (startsQuitting_probing hp).not.1 idle
      rw [hw] at hq
      rw [react_probing hp he hw] at hs
      have hl := World.later_receive _ hw
      cases received with
      | closed => exact absurd ⟨he, .inr rfl⟩ hq
      | nothing => exact goes_probeReadiness idle hp h he hs
      | command c =>
        have ha := (s.aside_inWorld hl).quietly (aside_note (n := .commandIgnored c) _ rfl)
        have hphase : ((s.inWorld w).note (.commandIgnored c)).phase = .probing race := hp
        cases c with
        | quit => exact absurd ⟨he, .inl rfl⟩ hq
        | _ =>
          cases hs
          refine goes_aside idle ha
            ((World.taken_receive hw).atOnce.trans (World.atOnce_emit _ _)) fun h => ?_
          rw [ha.phase, hp] at h
          rcases h with h | h <;> cases h

theorem goes_judged {r : ExitReport} {p : Phase} (idle : ¬s.StartsQuitting) (h : s.AtRest)
    {b : Handle} (hb : s.backend = some b)
    (hs : s' = s.backendExited r ∨ s' = (s.backendExited r).inPhase p) : Goes s s' := by
  obtain ⟨hj, -⟩ := s.release.aside_judgeExit_hosting r (h.unasked b hb) (h.upright hb)
  refine goes_exit idle hb hj ((mild_crashActs r).append ?_) hs
  split
  · exact mild_nil
  · exact mild_single rfl

theorem goes_handle {w : World} {c : Command} (idle : ¬s.StartsQuitting) (hp : s.phase = .hosting)
    (hl : s.nothingLeft = false) (he : s.backendExit? = none)
    (hw : s.world.receive = (w, .command c)) : Goes s ((s.inWorld w).handleCommand c) := by
  have ha := s.aside_inWorld (World.later_receive _ hw)
  have ht := World.taken_receive hw
  have hq := (startsQuitting_hosting hp).not.1 idle
  rw [hw] at hq
  cases c with
  | quit => exact absurd ⟨he, hl, .inl rfl⟩ hq
  | windowClosed =>
    have hkeep : ¬(s.inWorld w).closeWindow.config.quitOnLastWindowClosed = true :=
      fun h => hq ⟨he, hl, .inr (.inr ⟨rfl, h⟩)⟩
    rw [show (s.inWorld w).handleCommand .windowClosed = (s.inWorld w).closeWindow from
      if_neg hkeep]
    exact goes_calmly idle (ha.toAccount.quietly (s.inWorld w).account_closeWindow) mild_nil
      (ht.atOnce.trans (s.inWorld w).atOnce_closeWindow) rfl
      (.inr ⟨hp, hl, he, by rw [hw]⟩) fun _ _ => ⟨hp, rfl, rfl⟩
  | activate =>
    change Goes s (s.inWorld w).activate
    unfold activate
    split
    · have ha' := ha.quietly (aside_note (n := .activateIgnored) _ rfl)
      exact goes_aside idle ha' (ht.atOnce.trans (World.atOnce_emit _ _)) fun _ => hp
    · have hnone := publishedExit?_of_unseen he hw
      rw [hnone]
      exact goes_calmly idle (ha.toAccount.inPhase _) mild_nil ht.atOnce rfl (.inl rfl)
        fun _ _ => ⟨hp, rfl, rfl⟩

theorem goes_host (idle : ¬s.StartsQuitting) (hp : s.phase = .hosting) (h : s.AtRest)
    (hs : s.react = some s') : Goes s s' := by
  cases hl : s.nothingLeft with
  | true =>
    have hs' : s' = (s.note .nothingToHost).finish := by
      unfold react host at hs
      rw [hp] at hs
      dsimp only at hs
      rw [hl] at hs
      exact (Option.some.inj hs).symm
    subst hs'
    have hf : Account s [] (s.note .nothingToHost).finish :=
      (s.aside_note (n := .nothingToHost) rfl).toAccount.quietly
        ⟨rfl, rfl, rfl, (World.Later.refl _).retouch rfl rfl rfl rfl rfl, rfl, rfl⟩
    exact goes_calmly idle hf mild_nil ((s.atOnce_note .nothingToHost).trans (.of_eq rfl rfl))
      rfl (.inl rfl)
      fun hphase _ => by rcases hphase with h | h <;> cases h
  | false =>
    cases he : s.backendExit? with
    | some r =>
      obtain ⟨b, hb, -⟩ := held_of_backendExit he
      have hs' : s' = s.backendExited r := by
        unfold react host at hs
        rw [hp] at hs
        dsimp only at hs
        rw [hl, he] at hs
        exact (Option.some.inj hs).symm
      exact goes_judged (p := .hosting) idle h hb (.inl hs')
    | none =>
      cases hw : s.world.receive with
      | mk w received =>
        have hq := (startsQuitting_hosting hp).not.1 idle
        rw [hw] at hq
        rw [react_hosting hp hl he hw] at hs
        cases received with
        | closed => exact absurd ⟨he, hl, .inr (.inl rfl)⟩ hq
        | nothing => cases hs
        | command c =>
          cases hs
          exact goes_handle idle hp hl he hw

theorem goes_revive (hp : s.phase = .reviving) (h : s.AtRest) (hw : s.windowOpen = false)
    (he : s.publishedExit? = none) : Goes s s.revive := by
  have idle := not_startsQuitting_reviving hp
  unfold revive
  split
  · next halive =>
    obtain ⟨b, hb⟩ : ∃ b, s.backend = some b := by
      unfold backendAlive at halive
      cases hb : s.backend with
      | none => rw [hb] at halive; cases halive
      | some b => exact ⟨b, rfl⟩
    rw [publishedExit?, hb, Option.bind_some] at he
    obtain ⟨es, ho, -⟩ := s.account_openWindow hw (h.upright hb)
    exact ⟨es, ho.inPhase _, .opens b s idle ⟨hb, hb, he, hw, h.upright hb, rfl, rfl, rfl,
      .refl _, rfl,
      .inl ⟨hp, rfl⟩⟩ rfl⟩
  · next hgone =>
    have hb := free_of_gone he (Bool.eq_false_iff.2 hgone)
    exact goes_startCycle idle (s.aside_note rfl) (s.atOnce_note _) hb h.mayBegin

/-- Every step of a sound session is one of the moves. -/
theorem move_step {es : List Event} (h : Sound s) (ha : Account s es s')
    (hs : s.step = some s') : Move s es s' := by
  have unique {fs : List Event} (hf : Account s fs s') : fs = es := hf.world.unique ha.world
  by_cases hq : s.StartsQuitting
  · obtain ⟨s₁, hr, about⟩ := react_of_startsQuitting hq
    rw [step, hr] at hs
    exact .quits s₁ hq about (Option.some.inj hs).symm
  · suffices hg : Goes s s' by
      obtain ⟨fs, hf, hm⟩ := hg
      rwa [unique hf] at hm
    unfold step at hs
    split at hs
    · next s₁ hr =>
      cases hs
      cases hp : s.phase with
      | launching =>
        unfold Sound at h
        unfold react at hr
        rw [hp] at h hr
        cases hr
        exact goes_startCycle hq s.aside_refl (.refl _) h.2.1 (by rw [h.1]; rfl)
      | probing race => exact goes_probe hq hp ((Sound.probing hp).1 h) hr
      | hosting => exact goes_host hq hp ((Sound.hosting hp).1 h) hr
      | reviving =>
        obtain ⟨hrest, hw, he⟩ := (Sound.reviving hp).1 h
        unfold react at hr
        rw [hp] at hr
        cases hr
        exact goes_revive hp hrest hw he
      | finished t =>
        unfold react at hr
        rw [hp] at hr
        cases hr
    · next hr =>
      unfold wait at hs
      split at hs
      · cases hs
      · obtain ⟨t, -, rfl⟩ := Option.map_eq_some_iff.1 hs
        exact ⟨[], (s.aside_inWorld (s.world.later_advanceTo t)).toAccount,
          .waits t hq hr mild_nil rfl⟩

theorem Move.quit_of_starts {es : List Event} (h : Move s es s') (hq : s.StartsQuitting) :
    ∃ s₁, s.AboutToQuit s₁ ∧ s' = s₁.quit := by
  cases h with
  | quits s₁ _ about eq => exact ⟨s₁, about, eq⟩
  | opens _ _ idle => exact absurd hq idle
  | waits _ idle => exact absurd hq idle
  | other idle => exact absurd hq idle

/-- A step that asks for the window asks for it once. -/
theorem Gate.asks {es : List Event} {b : Handle} {s₁ : Session} (h : Gate s b s₁)
    (ha : Account s es s') (hs : s' = s₁.openWindow.inPhase .hosting) :
    ∃ after before, es = after ++ .openWindow s.targetUrl :: before ∧ Mild after ∧ Mild before ∧
      Account s before s₁ ∧ (s.phase = .reviving ∨
        ∃ signal elapsed, .note (.readinessResolved signal elapsed) ∈ before) := by
  obtain ⟨after, ho, hmild, -⟩ := s₁.account_asks h.closed h.upright
  obtain ⟨before, hb, hmild', hway⟩ : ∃ before, Account s before s₁ ∧ Mild before ∧
      (s.phase = .reviving ∨
        ∃ signal elapsed, .note (.readinessResolved signal elapsed) ∈ before) := by
    obtain ⟨hp, rfl⟩ | ⟨race, signal, elapsed, -, -, hacc⟩ := h.way
    · exact ⟨[], s₁.aside_refl.toAccount, mild_nil, .inl hp⟩
    · exact ⟨_, hacc, (mild_single rfl).append (mild_single rfl),
        .inr ⟨signal, elapsed, by simp⟩⟩
  have hall := (hb.trans ho).inPhase .hosting
  rw [← hs, hb.target, List.append_assoc, List.singleton_append] at hall
  exact ⟨after, before, ha.world.unique hall.world, hmild, hmild', hb, hway⟩

end Session

namespace Opening

open Session

variable (o : Opening)

theorem state_succ_of_stuck {k : Nat} (h : (o.state k).step = none) :
    o.state (k + 1) = o.state k := by
  rw [state_succ, next, h]
  rfl

theorem state_succ_of_step {k : Nat} {s : Session} (h : (o.state k).step = some s) :
    o.state (k + 1) = s := by
  rw [state_succ, next, h]
  rfl

theorem move (k : Nat) : Move (o.state k) (o.news k) (o.state (k + 1)) := by
  have ha := (o.stepped k).account
  cases hs : (o.state k).step with
  | some s' =>
    have he := o.state_succ_of_step hs
    rw [he] at ha ⊢
    exact move_step (o.sound k) ha hs
  | none =>
    have he := o.state_succ_of_stuck hs
    have hr : (o.state k).react = none := by
      unfold step at hs
      split at hs
      · cases hs
      · next hr => exact hr
    have hnews : o.news k = [] := ha.world.unique (by rw [he]; exact .refl _)
    rw [he, hnews]
    refine .other (fun hq => ?_) mild_nil (.refl _) rfl (.inl rfl)
      fun hp _ => ⟨hp.resolve_right fun hp => ?_, rfl, rfl⟩
    · obtain ⟨s₁, hs₁, -⟩ := react_of_startsQuitting hq
      rw [hr] at hs₁
      cases hs₁
    · unfold react at hr
      rw [hp] at hr
      cases hr

variable {o} {k : Nat}

theorem state_of_stuck (h : (o.state k).step = none) {m : Nat} (hm : k ≤ m) :
    o.state m = o.state k := by
  induction m, hm using Nat.le_induction with
  | base => rfl
  | succ m _ ih => rw [o.state_succ_of_stuck (by rw [ih]; exact h), ih]

theorem state_of_finished {t : Nat} (h : (o.state k).phase = .finished t) {m : Nat}
    (hm : k ≤ m) : o.state m = o.state k :=
  state_of_stuck (by rw [step, react, wait, h]) hm

variable (o)

/-- Whenever a session that is not over looks at its world, nothing is overdue but lines. -/
theorem prompt (k : Nat) (h : ∀ t, (o.state k).phase ≠ .finished t) :
    (o.state k).world.Prompt := by
  induction k with
  | zero =>
    obtain ⟨url, hz⟩ := o.state_zero
    rw [hz]
    exact o.world.prompt_advanceTo (Nat.le_refl _)
  | succ k ih =>
    have ih := ih fun t ht => h t (by rw [state_of_finished ht (Nat.le_succ k), ht])
    cases o.move k with
    | quits s₁ _ _ eq => exact absurd (by rw [eq]; rfl) (h s₁.quit.world.now)
    | waits t _ _ _ eq =>
      rw [eq]
      exact ih.advanceTo t
    | opens b s₁ _ gate eq =>
      rw [eq]
      exact (ih.atOnce gate.atOnce).atOnce s₁.atOnce_openWindow
    | other _ _ atOnce => exact ih.atOnce atOnce

end Opening
end DesktopHost
