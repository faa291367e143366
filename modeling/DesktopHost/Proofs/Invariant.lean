import DesktopHost.Proofs.Account

/-!
What holds of a session between two steps, whatever the world around it does, and what one step
can do to its backend.
-/

set_option autoImplicit false

namespace DesktopHost.Session

/-- The exit that a look of the session's own at its backend shows it now. After quitting it looks
no more; what the shutdown then waits for is another matter. -/
def noticed? (s : Session) : Option ExitReport :=
  match s.phase with
  | .probing _ | .hosting => s.backendExit?
  | _ => none

/-- A startup cycle under way: the backend lives, and there is no window yet. -/
structure StartingUp (s : Session) : Prop where
  state : s.machine.state = .probing
  begun : 1 ≤ s.machine.cycle
  held : s.backend.isSome = true
  unasked : ∀ h, s.backend = some h → h.terminationRequested = false
  closed : s.windowOpen = false
  unstopped : s.shutdown.stopped = false

/-- The session waits for something to happen. -/
structure AtRest (s : Session) : Prop where
  state : s.machine.state = .ready ∨ s.machine.state = .running ∨ s.machine.state = .failed
  begun : 1 ≤ s.machine.cycle
  failed : s.machine.state = .failed → s.backend = none
  ready : s.machine.state = .ready → s.windowOpen = false
  unasked : ∀ h, s.backend = some h → h.terminationRequested = false
  unstopped : s.shutdown.stopped = false

def Sound (s : Session) : Prop :=
  match s.phase with
  | .launching =>
    s.machine = .new ∧ s.backend = none ∧ s.windowOpen = false ∧ s.shutdown.stopped = false
  | .probing _ => s.StartingUp
  | .hosting => s.AtRest
  | .reviving => s.AtRest ∧ s.windowOpen = false ∧ s.publishedExit? = none
  | .finished _ => s.machine.state.isTerminal = true ∧ s.backend = none

/-- What one step can do to the backend, and what it then records. -/
inductive Turn (s : Session) (es : List Event) (s' : Session) : Prop where
  | goesOn (backend : s'.backend = s.backend) (cycle : s'.machine.cycle = s.machine.cycle)
      (unseen : s.noticed? = none) (quiet : Quiet es)
  | launchFails (free : s.backend = none) (closed : s.windowOpen = false)
      (fails : LaunchFails s es s')
  | launches (h : Handle) (free : s.backend = none) (closed : s.windowOpen = false)
      (launches : Launches s es s' h)
  | notices (h : Handle) (r : ExitReport) (held : s.backend = some h) (seen : s.noticed? = some r)
      (given : s'.backend = none) (cycle : s'.machine.cycle = s.machine.cycle)
      (acts : ∃ rest, Quiet rest ∧ es = crashActs r ++ rest)
  | stops (given : s'.backend = none) (cycle : s'.machine.cycle = s.machine.cycle)
      (unseen : s.noticed? = none) (quiet : Quiet es) (stopped : s.StopsHeld es)

/-- A step with its account; soundness is kept. -/
structure Stepped (s : Session) (es : List Event) (s' : Session) : Prop where
  account : Account s es s'
  sound : Sound s'
  turn : Turn s es s'

theorem Sound.probing {s : Session} {race : Option Race} (hp : s.phase = .probing race) :
    Sound s ↔ s.StartingUp := by
  unfold Sound; rw [hp]

theorem Sound.hosting {s : Session} (hp : s.phase = .hosting) : Sound s ↔ s.AtRest := by
  unfold Sound; rw [hp]

theorem Sound.reviving {s : Session} (hp : s.phase = .reviving) :
    Sound s ↔ s.AtRest ∧ s.windowOpen = false ∧ s.publishedExit? = none := by
  unfold Sound; rw [hp]

theorem Sound.finished {s : Session} {t : Nat} (hp : s.phase = .finished t) :
    Sound s ↔ s.machine.state.isTerminal = true ∧ s.backend = none := by
  unfold Sound; rw [hp]

theorem noticed?_probing {s : Session} {race : Option Race} (hp : s.phase = .probing race) :
    s.noticed? = s.backendExit? := by
  unfold noticed?; rw [hp]

theorem noticed?_hosting {s : Session} (hp : s.phase = .hosting) :
    s.noticed? = s.backendExit? := by
  unfold noticed?; rw [hp]

theorem noticed?_reviving {s : Session} (hp : s.phase = .reviving) : s.noticed? = none := by
  unfold noticed?; rw [hp]

theorem held_of_backendExit {s : Session} {r : ExitReport} (h : s.backendExit? = some r) :
    ∃ b, s.backend = some b ∧ s.world.visibleExit b.child = some r :=
  Option.bind_eq_some_iff.1 h

theorem AtRest.mayBegin {s : Session} (h : s.AtRest) : s.machine.state.mayBegin = true := by
  rcases h.state with hs | hs | hs <;> rw [hs] <;> rfl

theorem AtRest.mayQuit {s : Session} (h : s.AtRest) :
    s.machine.state = .failed ∨ s.machine.state.leadsTo .shuttingDown = true := by
  rcases h.state with hs | hs | hs
  · exact .inr (by rw [hs]; rfl)
  · exact .inr (by rw [hs]; rfl)
  · exact .inl hs

theorem AtRest.upright {s : Session} (h : s.AtRest) {b : Handle} (hb : s.backend = some b) :
    s.machine.state = .ready ∨ s.machine.state = .running := by
  rcases h.state with hs | hs | hs
  · exact .inl hs
  · exact .inr hs
  · rw [h.failed hs] at hb
    cases hb

theorem AtRest.aside {s s' : Session} (h : s.AtRest) (hm : s'.machine = s.machine)
    (hb : s'.backend = s.backend) (hw : s'.window = s.window) (hs : s'.shutdown = s.shutdown) :
    s'.AtRest := by
  have ho : s'.windowOpen = s.windowOpen := congrArg WindowHost.isOpen hw
  refine ⟨?_, ?_, ?_, ?_, ?_, ?_⟩
  · rw [hm]; exact h.state
  · rw [hm]; exact h.begun
  · rw [hm, hb]; exact h.failed
  · rw [hm, ho]; exact h.ready
  · rw [hb]; exact h.unasked
  · rw [hs]; exact h.unstopped

theorem StartingUp.aside {s s' : Session} (h : s.StartingUp) (hm : s'.machine = s.machine)
    (hb : s'.backend = s.backend) (hw : s'.window = s.window) (hs : s'.shutdown = s.shutdown) :
    s'.StartingUp := by
  have ho : s'.windowOpen = s.windowOpen := congrArg WindowHost.isOpen hw
  refine ⟨?_, ?_, ?_, ?_, ?_, ?_⟩
  · rw [hm]; exact h.state
  · rw [hm]; exact h.begun
  · rw [hb]; exact h.held
  · rw [hb]; exact h.unasked
  · rw [ho]; exact h.closed
  · rw [hs]; exact h.unstopped

theorem Account.machine_eq {s s' : Session} (h : Account s [] s') : s'.machine = s.machine :=
  (Option.some.inj h.machine).symm

variable {s₀ s s' : Session}

theorem Account.inPhase {es : List Event} (h : Account s es s') (p : Phase) :
    Account s es (s'.inPhase p) :=
  ⟨h.config, h.launch, h.target, h.world, h.machine, h.errors⟩

/-- Only between the two looks of an activation it matters in what world a session stands. -/
theorem Sound.inWorld (h : Sound s) (hp : s.phase ≠ .reviving) (w : World) :
    Sound (s.inWorld w) := by
  cases hphase : s.phase with
  | probing race =>
    have hp' : (s.inWorld w).phase = .probing race := hphase
    exact (Sound.probing hp').2 (((Sound.probing hphase).1 h).aside rfl rfl rfl rfl)
  | hosting =>
    have hp' : (s.inWorld w).phase = .hosting := hphase
    exact (Sound.hosting hp').2 (((Sound.hosting hphase).1 h).aside rfl rfl rfl rfl)
  | launching =>
    have hp' : (s.inWorld w).phase = .launching := hphase
    unfold Sound at h ⊢
    rw [hphase] at h
    rw [hp']
    exact h
  | reviving => exact absurd hphase hp
  | finished t =>
    have hp' : (s.inWorld w).phase = .finished t := hphase
    exact (Sound.finished hp').2 ((Sound.finished hphase).1 h)

theorem LaunchFails.after {es : List Event} (h : LaunchFails s es s') (ha : Aside s₀ [] s) :
    LaunchFails s₀ es s' := by
  have hm := ha.machine_eq
  have hacc : Account s₀ es s' := by
    have := ha.toAccount.trans h.account
    rwa [List.append_nil] at this
  refine ⟨hacc, ?_, ?_, h.backend, h.window.trans ha.window, h.shutdown.trans ha.shutdown, h.phase⟩
  · have hlen : s.world.children.length = s₀.world.children.length := ha.world.spawned
    rw [← hm, ← ha.world.files, ← ha.world.cwd, ← ha.launch, ← hlen]
    exact h.acts
  · rw [← hm]; exact h.machine

theorem Launches.after {es : List Event} {b : Handle} (h : Launches s es s' b)
    (ha : Aside s₀ [] s) : Launches s₀ es s' b := by
  have hm := ha.machine_eq
  have hacc : Account s₀ es s' := by
    have := ha.toAccount.trans h.account
    rwa [List.append_nil] at this
  refine ⟨hacc, ?_, ?_, ?_, h.known, h.unasked, ?_, h.backend, h.window.trans ha.window,
    h.shutdown.trans ha.shutdown, h.phase⟩
  · rw [← hm]; exact h.acts
  · rw [← ha.world.files, ← ha.world.cwd, ← ha.launch]
    exact h.found
  · have hlen : s.world.children.length = s₀.world.children.length := ha.world.spawned
    rw [← hlen]; exact h.child
  · rw [← hm]; exact h.machine

theorem stepped_startCycle (ha : Aside s₀ [] s) (hb : s₀.backend = none)
    (hm : s₀.machine.state.mayBegin = true) (hw : s₀.windowOpen = false)
    (hs : s₀.shutdown.stopped = false) : ∃ es, Stepped s₀ es s.startCycle := by
  obtain ⟨es, hf | ⟨h, hl⟩⟩ :=
    s.account_startCycle (ha.backend.trans hb) (by rw [ha.machine_eq]; exact hm)
  · replace hf := hf.after ha
    refine ⟨es, hf.account, (Sound.hosting hf.phase).2 ⟨?_, ?_, ?_, ?_, ?_, ?_⟩,
      .launchFails hb hw hf⟩
    · exact .inr (.inr (by rw [hf.machine]))
    · rw [hf.machine]; exact Nat.le_add_left 1 _
    · exact fun _ => hf.backend
    · exact fun hr => by rw [hf.machine] at hr; cases hr
    · exact fun b hb' => by rw [hf.backend] at hb'; cases hb'
    · rw [hf.shutdown]; exact hs
  · replace hl := hl.after ha
    refine ⟨es, hl.account, (Sound.probing hl.phase).2 ⟨?_, ?_, ?_, ?_, ?_, ?_⟩,
      .launches h hb hw hl⟩
    · rw [hl.machine]
    · rw [hl.machine]; exact Nat.le_add_left 1 _
    · rw [hl.backend]; rfl
    · intro b hb'
      cases hl.backend.symm.trans hb'
      exact hl.unasked
    · exact (congrArg WindowHost.isOpen hl.window).trans hw
    · rw [hl.shutdown]; exact hs

theorem stepped_quit (ha : Account s₀ [] s) (hb : s.backend = s₀.backend)
    (hsh : s.shutdown = s₀.shutdown) (hs : s₀.shutdown.stopped = false)
    (hm : s.machine.state = .failed ∨ s.machine.state.leadsTo .shuttingDown = true)
    (hn : s₀.noticed? = none) : ∃ es, Stepped s₀ es s.quit := by
  obtain ⟨es, hq, hquiet, hnone, ht, hc, hst⟩ := s.account_quit (by rw [hsh]; exact hs) hm
  have hacc := ha.trans hq
  rw [List.append_nil] at hacc
  refine ⟨es, hacc, (Sound.finished rfl).2 ⟨ht, hnone⟩, .stops hnone ?_ hn hquiet ?_⟩
  · rw [hc, ha.machine_eq]
  · intro h hh
    rw [← hsh]
    exact hst h (hb.trans hh)

theorem stepped_goesOn {es : List Event} (ha : Account s es s') (hs : Sound s')
    (hb : s'.backend = s.backend) (hc : s'.machine.cycle = s.machine.cycle)
    (hn : s.noticed? = none) (hq : Quiet es) : ∃ es, Stepped s es s' :=
  ⟨es, ha, hs, .goesOn hb hc hn hq⟩

theorem stepped_aside (ha : Aside s [] s') (hn : s.noticed? = none) (hs : Sound s') :
    ∃ es, Stepped s es s' :=
  stepped_goesOn ha.toAccount hs ha.backend (by rw [ha.machine_eq]) hn quiet_nil

theorem StartingUp.mayQuit (h : s.StartingUp) :
    s.machine.state = .failed ∨ s.machine.state.leadsTo .shuttingDown = true :=
  .inr (by rw [h.state]; rfl)

theorem stepped_exit_probing {race : Option Race} {r : ExitReport} (hp : s.phase = .probing race)
    (h : s.StartingUp) (hr : s.backendExit? = some r) :
    ∃ es, Stepped s es ((s.backendExited r).inPhase .hosting) := by
  obtain ⟨b, hb, -⟩ := held_of_backendExit hr
  obtain ⟨hj, hm⟩ := s.release.aside_judgeExit_probing r (h.unasked b hb) h.state
  obtain ⟨he, ha, hnone, -, hsh⟩ := s.account_backendExited hb hj
  rw [← he] at hm
  have hstate := congrArg Machine.state hm
  have hcycle := congrArg Machine.cycle hm
  have hstopped := congrArg Shutdown.stopped hsh
  refine ⟨_, ha.inPhase _, (Sound.hosting rfl).2 ⟨?_, ?_, fun _ => hnone, ?_, ?_, ?_⟩,
    .notices b r hb ((noticed?_probing hp).trans hr) hnone hcycle ⟨_, stepTo_quiet _ _, rfl⟩⟩
  · exact .inr (.inr hstate)
  · exact Nat.le_trans h.begun (Nat.le_of_eq hcycle.symm)
  · intro hr'
    cases hstate.symm.trans hr'
  · intro b' hb'
    cases hnone.symm.trans hb'
  · exact hstopped.trans h.unstopped

theorem stepped_exit_hosting {r : ExitReport} (hp : s.phase = .hosting) (h : s.AtRest)
    (hr : s.backendExit? = some r) : ∃ es, Stepped s es (s.backendExited r) := by
  obtain ⟨b, hb, -⟩ := held_of_backendExit hr
  obtain ⟨hj, hm⟩ := s.release.aside_judgeExit_hosting r (h.unasked b hb) (h.upright hb)
  obtain ⟨he, ha, hnone, hw, hsh⟩ := s.account_backendExited hb hj
  rw [← he] at hm
  have hphase : (s.backendExited r).phase = .hosting := (s.backendExited_keeps r).phase.trans hp
  have hcycle : (s.backendExited r).machine.cycle = s.machine.cycle := by
    rw [hm]; split <;> rfl
  refine ⟨_, ha, (Sound.hosting hphase).2 ⟨?_, ?_, fun _ => hnone, ?_, ?_, ?_⟩,
    .notices b r hb ((noticed?_hosting hp).trans hr) hnone hcycle ⟨_, ?_, rfl⟩⟩
  · rw [hm]
    split
    · exact h.state
    · exact .inr (.inr rfl)
  · rw [hcycle]; exact h.begun
  · intro hr'
    rw [hm] at hr'
    split at hr'
    · have hopen := congrArg WindowHost.isOpen hw
      exact hopen.trans (h.ready hr')
    · cases hr'
  · intro b' hb'
    cases hnone.symm.trans hb'
  · rw [hsh]; exact h.unstopped
  · split
    · exact quiet_nil
    · exact stepTo_quiet _ _

theorem stepped_openWindow {es : List Event} (ha : Account s₀ es s) (hq : Quiet es)
    (hb : s.backend = s₀.backend) (hc : s.machine.cycle = s₀.machine.cycle)
    (hn : s₀.noticed? = none) (hw : s.windowOpen = false)
    (hm : s.machine.state = .ready ∨ s.machine.state = .running) (h1 : 1 ≤ s.machine.cycle)
    (hu : ∀ h, s.backend = some h → h.terminationRequested = false)
    (hs : s.shutdown.stopped = false) :
    ∃ es, Stepped s₀ es (s.openWindow.inPhase .hosting) := by
  obtain ⟨fs, ho, hq', hb', hs', hc', hopen⟩ := s.account_openWindow hw hm
  have hrest : (s.openWindow.inPhase .hosting).AtRest := by
    have hstate : s.openWindow.machine.state = .ready ∨ s.openWindow.machine.state = .running := by
      rcases hopen with ⟨-, hr⟩ | ⟨-, hr⟩
      · exact .inr hr
      · rw [hr]; exact hm
    refine ⟨hstate.imp_right .inl, ?_, ?_, ?_, ?_, ?_⟩
    · change 1 ≤ s.openWindow.machine.cycle
      rw [hc']; exact h1
    · intro hf
      change s.openWindow.machine.state = _ at hf
      rcases hstate with hr | hr <;> rw [hr] at hf <;> cases hf
    · intro hr
      change s.openWindow.machine.state = _ at hr
      rcases hopen with ⟨-, hr'⟩ | ⟨hclosed, -⟩
      · rw [hr'] at hr; cases hr
      · exact hclosed
    · intro b hbb
      exact hu b (hb'.symm.trans hbb)
    · change s.openWindow.shutdown.stopped = false
      rw [hs']; exact hs
  exact stepped_goesOn ((ha.trans ho).inPhase _) ((Sound.hosting rfl).2 hrest) (hb'.trans hb)
    (hc'.trans hc) hn (hq'.append hq)

theorem stepped_probeReadiness {race : Option Race} (hp : s.phase = .probing race)
    (h : s.StartingUp) (hn : s.noticed? = none) (hs : s.probeReadiness race = some s') :
    ∃ es, Stepped s es s' := by
  unfold probeReadiness at hs
  split at hs
  · obtain ⟨b, -, rfl⟩ := Option.map_eq_some_iff.1 hs
    have hl : s.world.Later [] (Race.start s.config.readiness s.world b.child).1 :=
      s.world.later_startCheck
    exact stepped_goesOn ((s.aside_inWorld hl).toAccount.inPhase _)
      ((Sound.probing rfl).2 (h.aside rfl rfl rfl rfl)) rfl rfl hn quiet_nil
  · next r =>
    split at hs
    · cases hs
    · next w r' hr =>
      cases hs
      exact stepped_goesOn ((s.aside_inWorld (Race.later_of_moved hr)).toAccount.inPhase _)
        ((Sound.probing rfl).2 (h.aside rfl rfl rfl rfl)) rfl rfl hn quiet_nil
    · next w signal hr =>
      cases hs
      have h₁ := s.aside_inWorld (Race.later_of_resolved hr)
      have h₂ := (s.inWorld w).aside_record (n := .readinessResolved signal (w.now - r.started))
        rfl rfl
      have hlead : ((s.inWorld w).note
          (.readinessResolved signal (w.now - r.started))).machine.state.leadsTo .ready = true := by
        change s.machine.state.leadsTo .ready = true
        rw [h.state]; rfl
      obtain ⟨h₃, hm₃⟩ := aside_moveTo _ hlead
      have ha := (h₁.trans h₂).trans h₃
      refine stepped_openWindow ha.toAccount ?_ ha.backend ?_ hn ?_ ?_ ?_ ?_ ?_
      · exact (stepTo_quiet _ _).append (quiet_single rfl rfl rfl)
      · rw [hm₃]; rfl
      · exact (congrArg WindowHost.isOpen ha.window).trans h.closed
      · exact .inl (by rw [hm₃])
      · rw [hm₃]; exact h.begun
      · rw [ha.backend]; exact h.unasked
      · rw [ha.shutdown]; exact h.unstopped

theorem stepped_probe {race : Option Race} (hp : s.phase = .probing race) (h : s.StartingUp)
    (hs : s.probe race = some s') : ∃ es, Stepped s es s' := by
  unfold probe at hs
  split at hs
  · next r hr =>
    cases hs
    exact stepped_exit_probing hp h hr
  · next hr =>
    have hn : s.noticed? = none := (noticed?_probing hp).trans hr
    split at hs
    · next w hw =>
      cases hs
      exact stepped_quit (s.aside_inWorld (World.later_receive _ hw)).toAccount rfl rfl
        h.unstopped h.mayQuit hn
    · next w hw =>
      cases hs
      exact stepped_quit (s.aside_inWorld (World.later_receive _ hw)).toAccount rfl rfl
        h.unstopped h.mayQuit hn
    · next w c _ hw =>
      cases hs
      have ha := (s.aside_inWorld (World.later_receive _ hw)).quietly
        (aside_note (n := .commandIgnored c) _ rfl)
      exact stepped_aside ha hn
        ((Sound.probing (ha.phase.trans hp)).2 (h.aside rfl rfl rfl rfl))
    · exact stepped_probeReadiness hp h hn hs

/-- What the main loop has not seen is not published either when it goes on to a command. -/
theorem publishedExit?_of_unseen {w : World} {r : World.Received} (he : s.backendExit? = none)
    (hw : s.world.receive = (w, r)) : (s.inWorld w).publishedExit? = none := by
  have hchildren : w.children = s.world.children := by
    unfold World.receive at hw
    split at hw
    · cases hw; rfl
    · split at hw <;> cases hw <;> rfl
  unfold publishedExit?
  unfold backendExit? at he
  change (s.backend.bind fun h => h.exitReport w) = none
  cases hb : s.backend with
  | none => rfl
  | some b =>
    rw [hb] at he
    rw [Option.bind_some] at he ⊢
    cases hx : b.exitReport w with
    | none => rfl
    | some x =>
      have hpub : s.world.publishedExit b.child = some x := by
        rw [← hx]
        simp only [Handle.exitReport, World.publishedExit, World.child?, hchildren]
      rw [World.visibleExit_of_published _ hpub] at he
      cases he

theorem stepped_activate {w : World} {r : World.Received} (hp : s.phase = .hosting)
    (h : s.AtRest) (hn : s.noticed? = none) (hw : s.world.receive = (w, r)) :
    ∃ es, Stepped s es (s.inWorld w).activate := by
  have ha := s.aside_inWorld (World.later_receive _ hw)
  have hrest : (s.inWorld w).AtRest := h.aside rfl rfl rfl rfl
  unfold activate
  split
  · have ha' := ha.quietly (aside_note (n := .activateIgnored) _ rfl)
    exact stepped_aside ha' hn
      ((Sound.hosting (ha'.phase.trans hp)).2 (h.aside rfl rfl rfl rfl))
  · next hclosed =>
    have hnone : (s.inWorld w).publishedExit? = none := by
      rw [noticed?_hosting hp] at hn
      exact publishedExit?_of_unseen hn hw
    rw [hnone]
    exact stepped_goesOn (ha.toAccount.inPhase _)
      ((Sound.reviving rfl).2 ⟨hrest.aside rfl rfl rfl rfl, Bool.eq_false_iff.2 hclosed, hnone⟩)
      rfl rfl hn quiet_nil

theorem closeWindow_closed (s : Session) : s.closeWindow.windowOpen = false := rfl

theorem stepped_handleCommand {w : World} {c : Command} (hp : s.phase = .hosting)
    (h : s.AtRest) (hn : s.noticed? = none) (hw : s.world.receive = (w, .command c)) :
    ∃ es, Stepped s es ((s.inWorld w).handleCommand c) := by
  have ha := s.aside_inWorld (World.later_receive _ hw)
  cases c with
  | activate => exact stepped_activate hp h hn hw
  | quit => exact stepped_quit ha.toAccount rfl rfl h.unstopped h.mayQuit hn
  | windowClosed =>
    have hc := ha.toAccount.quietly (s.inWorld w).account_closeWindow
    simp only [handleCommand, afterClosing]
    split
    · exact stepped_quit hc rfl rfl h.unstopped h.mayQuit hn
    · have hp' : (s.inWorld w).closeWindow.phase = .hosting := hp
      refine stepped_goesOn hc ((Sound.hosting hp').2 ?_) rfl rfl hn quiet_nil
      exact ⟨h.state, h.begun, h.failed, fun _ => closeWindow_closed _, h.unasked, h.unstopped⟩

theorem stepped_host (hp : s.phase = .hosting) (h : s.AtRest) (hs : s.host = some s') :
    ∃ es, Stepped s es s' := by
  unfold host at hs
  split at hs
  · next hleft =>
    cases hs
    simp only [nothingLeft, Bool.and_eq_true, beq_iff_eq, Option.isNone_iff_eq_none] at hleft
    have hn : s.noticed? = none := by
      rw [noticed?_hosting hp, backendExit?, hleft.1.2, Option.bind_none]
    have hf : Account s [] (s.note .nothingToHost).finish :=
      (s.aside_note (n := .nothingToHost) rfl).toAccount.quietly
        ⟨rfl, rfl, rfl, (World.Later.refl _).retouch rfl rfl rfl rfl rfl, rfl, rfl⟩
    refine stepped_goesOn hf ((Sound.finished rfl).2 ⟨?_, hleft.1.2⟩) rfl rfl hn quiet_nil
    change s.machine.state.isTerminal = true
    rw [hleft.1.1.2]; rfl
  · split at hs
    · next r hr =>
      cases hs
      exact stepped_exit_hosting hp h hr
    · next hr =>
      have hn : s.noticed? = none := (noticed?_hosting hp).trans hr
      split at hs
      · next w c hw =>
        cases hs
        exact stepped_handleCommand hp h hn hw
      · next w hw =>
        cases hs
        have ha := (s.aside_inWorld (World.later_receive _ hw)).quietly
          (aside_note (n := .handlesDropped) _ rfl)
        exact stepped_quit ha.toAccount rfl rfl h.unstopped h.mayQuit hn
      · cases hs

/-- A backend whose exit was not published a look ago is alive. -/
theorem alive_of_held (he : s.publishedExit? = none) {b : Handle} (hb : s.backend = some b) :
    s.backendAlive = true := by
  rw [publishedExit?, hb, Option.bind_some] at he
  simp [backendAlive, hb, Handle.hasExited, he]

theorem free_of_gone (he : s.publishedExit? = none) (hgone : s.backendAlive = false) :
    s.backend = none := by
  cases hb : s.backend with
  | none => rfl
  | some b =>
    rw [alive_of_held he hb] at hgone
    cases hgone

theorem stepped_revive (hp : s.phase = .reviving) (h : s.AtRest) (hw : s.windowOpen = false)
    (he : s.publishedExit? = none) : ∃ es, Stepped s es s.revive := by
  have hn := noticed?_reviving hp
  unfold revive
  split
  · next halive =>
    obtain ⟨b, hb⟩ : ∃ b, s.backend = some b := by
      unfold backendAlive at halive
      cases hb : s.backend with
      | none => rw [hb] at halive; cases halive
      | some b => exact ⟨b, rfl⟩
    exact stepped_openWindow s.aside_refl.toAccount quiet_nil rfl rfl hn hw (h.upright hb) h.begun
      h.unasked h.unstopped
  · next hgone =>
    exact stepped_startCycle (s.aside_note rfl) (free_of_gone he (Bool.eq_false_iff.2 hgone))
      h.mayBegin hw h.unstopped

theorem stepped_react (h : Sound s) (hs : s.react = some s') : ∃ es, Stepped s es s' := by
  unfold react at hs
  split at hs
  · next hp =>
    cases hs
    unfold Sound at h
    rw [hp] at h
    obtain ⟨hm, hb, hw, hsh⟩ := h
    exact stepped_startCycle s.aside_refl hb (by rw [hm]; rfl) hw hsh
  · next hp => exact stepped_probe hp ((Sound.probing hp).1 h) hs
  · next hp => exact stepped_host hp ((Sound.hosting hp).1 h) hs
  · next hp =>
    cases hs
    obtain ⟨hr, hw, he⟩ := (Sound.reviving hp).1 h
    exact stepped_revive hp hr hw he
  · cases hs

theorem noticed?_of_waiting (h : s.react = none) : s.noticed? = none := by
  unfold noticed?
  unfold react at h
  split
  · next race hp =>
    rw [hp] at h
    dsimp only at h
    unfold probe at h
    split at h
    · cases h
    · next hr => exact hr
  · next hp =>
    rw [hp] at h
    dsimp only at h
    unfold host at h
    split at h
    · cases h
    · split at h
      · cases h
      · next hr => exact hr
  · rfl

theorem stepped_wait (h : Sound s) (hr : s.react = none) (hs : s.wait = some s') :
    ∃ es, Stepped s es s' := by
  unfold wait at hs
  split at hs
  · cases hs
  · obtain ⟨t, -, rfl⟩ := Option.map_eq_some_iff.1 hs
    have ha := s.aside_inWorld (s.world.later_advanceTo t)
    refine stepped_aside ha (noticed?_of_waiting hr) (h.inWorld ?_ _)
    -- a session between the two looks never waits
    intro hp
    unfold react at hr
    rw [hp] at hr
    cases hr

/-- Every step of a sound session can be accounted for, and keeps it sound. -/
theorem stepped (h : Sound s) (hs : s.step = some s') : ∃ es, Stepped s es s' := by
  unfold step at hs
  split at hs
  · next s₁ hr =>
    cases hs
    exact stepped_react h hr
  · next hr => exact stepped_wait h hr hs

end DesktopHost.Session
