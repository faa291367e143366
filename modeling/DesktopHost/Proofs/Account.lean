import DesktopHost.Proofs.Cycles
import DesktopHost.Session.Lemmas

/-!
The account of a session's moves: for each of them the acts it records, and what it does to the
machine, the backend, the window and the shutdown.
-/

set_option autoImplicit false

namespace DesktopHost

/-- How many of the next `n` dialogs come back; the others end in a panic. -/
def returned (panics : List (Option String)) (n : Nat) : Nat :=
  (List.range n).countP fun k => (panics[k]?).join.isNone

theorem returned_one (panics : List (Option String)) :
    returned panics 1 = if (panics[0]?).join.isNone then 1 else 0 := by
  simp [returned, List.range_succ, List.countP_cons]

theorem returned_add (panics : List (Option String)) (a b : Nat) :
    returned panics (a + b) = returned panics a + returned (panics.drop a) b := by
  simp only [returned, List.range_add, List.countP_append, List.countP_map, Function.comp_def,
    List.getElem?_drop]

theorem World.showDialog_snd (w : World) (d : Dialog) :
    (w.showDialog d).2 = (w.panics[0]?).join := by
  unfold World.showDialog
  dsimp only [World.emit]
  split <;> next h => rw [h]; rfl

theorem ExitReport.isSuccess_iff (r : ExitReport) : r.isSuccess = true ↔ r.code = some 0 := by
  simp [isSuccess]

/-- Acts that neither spawn nor show anything, and begin no cycle. -/
def Quiet (es : List Event) : Prop :=
  ∀ e ∈ es, e.isSpawn = false ∧ e.isDialog = false ∧ e.isBegin = false

theorem quiet_nil : Quiet [] := by simp [Quiet]

theorem quiet_single {e : Event} (hs : e.isSpawn = false) (hd : e.isDialog = false)
    (hb : e.isBegin = false) : Quiet [e] := by
  intro x hx
  rw [List.mem_singleton.1 hx]
  exact ⟨hs, hd, hb⟩

theorem Quiet.append {es fs : List Event} (h : Quiet es) (h' : Quiet fs) : Quiet (es ++ fs) := by
  intro e he
  rcases List.mem_append.1 he with he | he
  · exact h e he
  · exact h' e he

namespace Machine

theorem replay_of_follow {m : Machine} {es : List Event} (h : ∀ e ∈ es, m.follow e = some m) :
    m.replay es = some m := by
  induction es with
  | nil => rfl
  | cons e r ih =>
    rw [replay, ih fun x hx => h x (List.mem_cons_of_mem _ hx)]
    exact h e List.mem_cons_self

end Machine

namespace Shutdown

/-- What a shutdown may record: signals to the one child. -/
def SignalsTo (child : Nat) (es : List Event) : Prop := ∀ e ∈ es, ∃ s, e = .signal child s

theorem send_later (w : World) (h : Handle) (s : TerminationSignal) :
    (h.exitReport w = none → w.Later [.signal h.child s] (send w h s)) ∧
      ∀ r, h.exitReport w = some r →
        w.Later [] (send w h s) ∧ h.exitReport (send w h s) = some r := by
  unfold send Handle.signal
  constructor
  · intro hn
    rw [hn]
    dsimp only
    have hl := w.later_signal h.child s
    split <;> next hs => rw [hs] at hl; first | exact hl | exact hl.quietly (World.later_note _ rfl)
  · intro r hr
    rw [hr]
    exact ⟨w.later_note rfl, hr⟩

/-- The forceful signal is left out only for an exit that is then seen. -/
theorem force_later (w : World) (h : Handle) (grace : Nat) :
    ∃ es, w.Later es (force w h grace).1 ∧ SignalsTo h.child es ∧
      (force w h grace).2 ≠ .skipped ∧
      ((force w h grace).2.report.isSome = true ∨ .signal h.child .forceful ∈ es) := by
  have hn : w.Later [] (w.note (.forcing h.pid grace)) := w.later_note rfl
  have hs := send_later (w.note (.forcing h.pid grace)) h .forceful
  generalize hw : w.note (.forcing h.pid grace) = w₁ at hn hs
  unfold force
  rw [hw]
  dsimp only
  cases he : h.exitReport w₁ with
  | none =>
    have hl := hn.trans (hs.1 he)
    refine ⟨[.signal h.child .forceful], ?_, by simp [SignalsTo], ?_, .inr List.mem_cons_self⟩
    · have ha := World.later_awaitExit (send w₁ h .forceful) h.child
        ((send w₁ h .forceful).now + reapTimeout)
      split
      · next hx => rw [hx] at ha; exact hl.quietly ha
      · next hx => rw [hx] at ha; exact (hl.quietly ha).quietly (World.later_note _ rfl)
    · split <;> exact ShutdownOutcome.noConfusion
  | some r =>
    -- the exit has come in between; no signal goes out, and the wait sees it at once
    obtain ⟨hl, hr⟩ := hs.2 r he
    have hv := World.visibleExit_of_published _ hr
    rw [World.awaitExit_of_visible _ hv]
    exact ⟨[], hn.quietly hl, by simp [SignalsTo], ShutdownOutcome.noConfusion, .inl rfl⟩

/-- Both phases of a shutdown end with the exit seen, or after the forceful signal. -/
theorem escalate_later (w : World) (h : Handle) (grace : Nat) :
    ∃ es, w.Later es (escalate w h grace).1 ∧ SignalsTo h.child es ∧
      (escalate w h grace).2 ≠ .skipped ∧
      ((escalate w h grace).2.report.isSome = true ∨ .signal h.child .forceful ∈ es) := by
  unfold escalate
  split
  · exact ⟨[], w.later_note rfl, by simp [SignalsTo], ShutdownOutcome.noConfusion, .inl rfl⟩
  · next he =>
    have hl := (send_later w h .graceful).1 he
    have ha := World.later_awaitExit (send w h .graceful) h.child
      ((send w h .graceful).now + grace)
    dsimp only
    split
    · next hx =>
      rw [hx] at ha
      exact ⟨[.signal h.child .graceful], hl.quietly ha, by simp [SignalsTo],
        ShutdownOutcome.noConfusion, .inl rfl⟩
    · next w₁ hx =>
      rw [hx] at ha
      obtain ⟨es, hf, hes, ho, hr⟩ := force_later w₁ h grace
      refine ⟨es ++ [.signal h.child .graceful], (hl.quietly ha).trans hf, ?_, ho,
        hr.imp_right (List.mem_append_left _)⟩
      intro e he
      rcases List.mem_append.1 he with he | he
      · exact hes e he
      · exact ⟨.graceful, List.mem_singleton.1 he⟩

theorem stop_eq {s : Shutdown} (hs : s.stopped = false) (w : World) (h : Handle) :
    s.stop w h = ((escalate w h.requestTermination s.grace).1, { s with stopped := true },
      h.requestTermination, (escalate w h.requestTermination s.grace).2) := by
  unfold stop
  rw [if_neg (by rw [hs]; exact Bool.false_ne_true)]

end Shutdown

namespace World

theorem later_spawnBackend_ok {w w' : World} {l : Launch} {markers : List String} {h : Handle}
    (hr : w.spawnBackend l markers = (w', .ok h)) :
    w.Later [.spawn h.child l] w' ∧ w.files.has w.cwd l.program = true ∧
      h.child = w.children.length ∧ (w'.child? h.child).isSome = true ∧
      h.terminationRequested = false := by
  unfold spawnBackend at hr
  split at hr
  · next hf =>
    obtain ⟨hl, hc⟩ := w.later_spawn l
    split at hr
    · cases hr
    · next w₁ i hs =>
      cases hr
      rw [hs] at hl hc
      obtain ⟨rfl, hc⟩ := hc
      have hi : (Handle.ofChild w₁ w.children.length).child = w.children.length ∧
          (Handle.ofChild w₁ w.children.length).terminationRequested = false := by
        unfold Handle.ofChild
        split <;> exact ⟨rfl, rfl⟩
      have ha := w₁.later_attachReaders w.children.length markers
      have hlen : w₁.children.length = w.children.length + 1 := hl.spawned
      refine ⟨?_, hf, hi.1, ?_, hi.2⟩
      · rw [hi.1]
        exact hl.quietly ha
      · rw [hi.1, ha.known _ (by omega)]
        exact hc
  · cases hr

theorem later_spawnBackend_error {w w' : World} {l : Launch} {markers : List String} {p : Problem}
    (hr : w.spawnBackend l markers = (w', .error p)) :
    ∃ es d, w.Later es w' ∧ p.dialog = some d ∧ d.title = Problem.initializationTitle ∧
      (es = [] ∧ w.files.has w.cwd l.program = false ∨
        es = [.spawn w.children.length l] ∧ w'.child? w.children.length = none) := by
  unfold spawnBackend at hr
  split at hr
  · obtain ⟨hl, hc⟩ := w.later_spawn l
    split at hr
    · next w₁ f hs =>
      cases hr
      rw [hs] at hl hc
      exact ⟨_, _, hl.quietly (later_note _ rfl), rfl, rfl, .inr ⟨rfl, hc⟩⟩
    · cases hr
  · next hf =>
    cases hr
    exact ⟨[], _, w.later_note rfl, rfl, rfl, .inl ⟨rfl, Bool.eq_false_iff.2 hf⟩⟩

end World

namespace Session

/-- From `s` it has come to `s'`, with the acts `es` in between, newest first. -/
structure Account (s : Session) (es : List Event) (s' : Session) : Prop where
  config : s'.config = s.config
  launch : s'.launch = s.launch
  target : s'.targetUrl = s.targetUrl
  world : s.world.Later es s'.world
  machine : s.machine.replay es = some s'.machine
  errors : s'.errorsReported =
    s.errorsReported + returned s.world.panics (es.countP Event.isDialog)

/-- An account of a move that has no part in the backend, the window and the shutdown. -/
structure Aside (s : Session) (es : List Event) (s' : Session) : Prop extends Account s es s' where
  backend : s'.backend = s.backend
  window : s'.window = s.window
  shutdown : s'.shutdown = s.shutdown
  phase : s'.phase = s.phase

theorem Account.trans {a b c : Session} {es fs : List Event} (h : Account a es b)
    (h' : Account b fs c) : Account a (fs ++ es) c := by
  refine ⟨h'.config.trans h.config, h'.launch.trans h.launch, h'.target.trans h.target,
    h.world.trans h'.world, ?_, ?_⟩
  · rw [Machine.replay_append, h.machine]
    exact h'.machine
  · rw [h'.errors, h.errors, h.world.panics, List.countP_append,
      Nat.add_comm (fs.countP Event.isDialog), returned_add]
    omega

theorem Account.quietly {a b c : Session} {es : List Event} (h : Account a es b)
    (h' : Account b [] c) : Account a es c := h.trans h'

theorem Aside.trans {a b c : Session} {es fs : List Event} (h : Aside a es b)
    (h' : Aside b fs c) : Aside a (fs ++ es) c :=
  ⟨h.toAccount.trans h'.toAccount, h'.backend.trans h.backend, h'.window.trans h.window,
    h'.shutdown.trans h.shutdown, h'.phase.trans h.phase⟩

theorem Aside.quietly {a b c : Session} {es : List Event} (h : Aside a es b)
    (h' : Aside b [] c) : Aside a es c := h.trans h'

theorem Aside.ofWorld {s : Session} {w : World} {es : List Event} (h : s.world.Later es w)
    (hd : es.countP Event.isDialog = 0) (hm : s.machine.replay es = some s.machine) :
    Aside s es (s.inWorld w) :=
  ⟨⟨rfl, rfl, rfl, h, hm, by rw [hd]; rfl⟩, rfl, rfl, rfl, rfl⟩

variable (s : Session)

theorem aside_refl : Aside s [] s := .ofWorld (.refl s.world) rfl rfl

theorem aside_inWorld {w : World} (h : s.world.Later [] w) : Aside s [] (s.inWorld w) :=
  .ofWorld h rfl rfl

theorem aside_note {n : Note} (h : n.isAct = false) : Aside s [] (s.note n) :=
  s.aside_inWorld (s.world.later_note h)

theorem aside_record {n : Note} (ha : n.isAct = true)
    (hm : s.machine.follow (.note n) = some s.machine) : Aside s [.note n] (s.note n) := by
  refine .ofWorld (s.world.later_act (e := .note n) ha rfl rfl) ?_ ?_
  · simp [Event.isDialog]
  · simpa [Machine.replay] using hm

def stepTo (t : LifecycleState) : Event := .note (.transition s.machine.state t s.machine.cycle)

theorem aside_moveTo {t : LifecycleState} (h : s.machine.state.leadsTo t = true) :
    Aside s [s.stepTo t] (s.moveTo t) ∧ (s.moveTo t).machine = ⟨t, s.machine.cycle⟩ := by
  have hm : s.machine.advance t = .ok { s.machine with state := t } := by
    unfold Machine.advance
    rw [if_pos (LifecycleState.mayGo_of_leadsTo h)]
  unfold moveTo
  rw [hm]
  refine ⟨⟨⟨rfl, rfl, rfl, s.world.later_act (e := s.stepTo t) rfl rfl rfl, ?_, rfl⟩,
    rfl, rfl, rfl, rfl⟩, rfl⟩
  exact Machine.follow_transition h

theorem markFailed_eq_moveTo (h : s.machine.state.leadsTo .failed = true) :
    s.markFailed = s.moveTo .failed := by
  unfold markFailed moveTo Machine.fail Machine.advance
  rw [if_pos (LifecycleState.mayGo_of_leadsTo h)]

theorem aside_showProblem {p : Problem} {d : Dialog} (hp : p.dialog = some d) :
    Aside s [.dialog d] (s.showProblem p) ∧ (s.showProblem p).machine = s.machine := by
  have hl := s.world.later_showDialog d
  have hr := s.world.showDialog_snd d
  unfold showProblem
  rw [hp]
  dsimp only
  split
  · next w hs =>
    rw [hs] at hl hr
    refine ⟨⟨⟨rfl, rfl, rfl, hl, rfl, ?_⟩, rfl, rfl, rfl, rfl⟩, rfl⟩
    change s.errorsReported + 1 = s.errorsReported + returned s.world.panics 1
    rw [returned_one, ← hr]
    rfl
  · next w text hs =>
    rw [hs] at hl hr
    refine ⟨⟨⟨rfl, rfl, rfl, hl.quietly (World.later_note _ rfl), rfl, ?_⟩,
      rfl, rfl, rfl, rfl⟩, rfl⟩
    change s.errorsReported = s.errorsReported + returned s.world.panics 1
    rw [returned_one, ← hr]
    rfl

theorem stepTo_quiet (t : LifecycleState) : Quiet [s.stepTo t] := quiet_single rfl rfl rfl

theorem aside_failWith {p : Problem} {d : Dialog} (hp : p.dialog = some d)
    (h : s.machine.state.leadsTo .failed = true) :
    Aside s [.dialog d, s.stepTo .failed] (s.failWith p) ∧
      (s.failWith p).machine = ⟨.failed, s.machine.cycle⟩ := by
  have hn : Aside s [] (s.note (.lifecycleFailure p s.machine.state)) := s.aside_note rfl
  generalize hs₁ : s.note (.lifecycleFailure p s.machine.state) = s₁ at hn
  have hm : s₁.machine = s.machine := by rw [← hs₁]; rfl
  have ht : s₁.stepTo .failed = s.stepTo .failed := by rw [stepTo, stepTo, hm]
  rw [← hm] at h
  obtain ⟨h₁, hm₁⟩ := s₁.aside_moveTo h
  obtain ⟨h₂, hm₂⟩ := (s₁.moveTo .failed).aside_showProblem hp
  have he : s.failWith p = (s₁.moveTo .failed).showProblem p := by
    rw [failWith, hs₁, markFailed_eq_moveTo _ h]
  rw [he]
  refine ⟨?_, by rw [hm₂, hm₁, hm]⟩
  rw [← ht]
  exact (hn.trans h₁).trans h₂

def crashDialog : Dialog :=
  ⟨Problem.backendTitle, "The tournament system backend has stopped unexpectedly."⟩

def crashActs (r : ExitReport) : List Event :=
  if r.isSuccess then [] else [.dialog crashDialog]

theorem mem_crashActs {r : ExitReport} {e : Event} (h : e ∈ crashActs r) :
    e = .dialog crashDialog ∧ r.isSuccess = false := by
  unfold crashActs at h
  split at h
  · cases h
  · next hs => exact ⟨List.mem_singleton.1 h, Bool.eq_false_iff.2 hs⟩

theorem exitCleanly_probing (hm : s.machine.state = .probing) :
    s.exitCleanly = s.moveTo .failed := by
  unfold exitCleanly
  rw [hm]
  exact s.markFailed_eq_moveTo (by rw [hm]; rfl)

theorem exitCleanly_hosting (hm : s.machine.state = .ready ∨ s.machine.state = .running) :
    s.exitCleanly = s := by
  unfold exitCleanly
  rcases hm with h | h <;> rw [h]

theorem aside_judgeExit_probing {h : Handle} (r : ExitReport)
    (hq : h.terminationRequested = false) (hm : s.machine.state = .probing) :
    Aside s (crashActs r ++ [s.stepTo .failed]) (s.judgeExit h r) ∧
      (s.judgeExit h r).machine = ⟨.failed, s.machine.cycle⟩ := by
  have hl : s.machine.state.leadsTo .failed = true := by rw [hm]; rfl
  unfold judgeExit crashActs
  rw [hq, if_neg Bool.false_ne_true]
  split
  · have hn : Aside s [] (s.note (.exitedCleanly h.pid s.machine.state)) := s.aside_note rfl
    obtain ⟨h₁, hm₁⟩ := aside_moveTo (s.note (.exitedCleanly h.pid s.machine.state)) hl
    rw [exitCleanly_probing (s.note _) hm]
    exact ⟨hn.trans h₁, hm₁⟩
  · exact s.aside_failWith rfl hl

theorem aside_judgeExit_hosting {h : Handle} (r : ExitReport)
    (hq : h.terminationRequested = false)
    (hm : s.machine.state = .ready ∨ s.machine.state = .running) :
    Aside s (crashActs r ++ if r.isSuccess then [] else [s.stepTo .failed]) (s.judgeExit h r) ∧
      (s.judgeExit h r).machine =
        (if r.isSuccess then s.machine else ⟨.failed, s.machine.cycle⟩) := by
  have hl : s.machine.state.leadsTo .failed = true := by rcases hm with h | h <;> rw [h] <;> rfl
  unfold judgeExit crashActs
  rw [hq, if_neg Bool.false_ne_true]
  split
  · rw [exitCleanly_hosting (s.note _) hm]
    exact ⟨s.aside_note rfl, rfl⟩
  · exact s.aside_failWith rfl hl

/-- The backend is given up before its exit is judged. -/
theorem account_backendExited {h : Handle} {r : ExitReport} {es : List Event}
    (hb : s.backend = some h) (hj : Aside s.release es (s.release.judgeExit h r)) :
    s.backendExited r = s.release.judgeExit h r ∧ Account s es (s.backendExited r) ∧
      (s.backendExited r).backend = none ∧ (s.backendExited r).window = s.window ∧
      (s.backendExited r).shutdown = s.shutdown := by
  have he : s.backendExited r = s.release.judgeExit h r := by rw [backendExited, hb]
  have hr : Account s [] s.release := ⟨rfl, rfl, rfl, .refl s.world, rfl, rfl⟩
  have ha := hr.trans hj.toAccount
  rw [List.append_nil] at ha
  rw [he]
  exact ⟨rfl, ha, hj.backend, hj.window, hj.shutdown⟩

theorem aside_markRunning (hm : s.machine.state = .ready ∨ s.machine.state = .running) :
    ∃ es, Aside s es s.markRunning ∧ Quiet es ∧
      s.markRunning.machine = ⟨.running, s.machine.cycle⟩ := by
  unfold markRunning
  rcases hm with hr | hr
  · obtain ⟨ha, hm'⟩ := s.aside_moveTo (t := .running) (by rw [hr]; rfl)
    rw [if_pos hr]
    exact ⟨_, ha, s.stepTo_quiet _, hm'⟩
  · rw [if_neg (by rw [hr]; decide)]
    exact ⟨[], s.aside_refl, quiet_nil, by rw [← hr]⟩

theorem account_openWindow (hw : s.windowOpen = false)
    (hm : s.machine.state = .ready ∨ s.machine.state = .running) :
    ∃ es, Account s es s.openWindow ∧ Quiet es ∧ s.openWindow.backend = s.backend ∧
      s.openWindow.shutdown = s.shutdown ∧ s.openWindow.machine.cycle = s.machine.cycle ∧
      (s.openWindow.windowOpen = true ∧ s.openWindow.machine.state = .running ∨
        s.openWindow.windowOpen = false ∧ s.openWindow.machine = s.machine) := by
  have hl := s.world.later_openWindow s.targetUrl
  have hq : Quiet [.openWindow s.targetUrl] := quiet_single rfl rfl rfl
  have ho : ¬s.window.isOpen = true := by
    rw [show s.window.isOpen = false from hw]
    exact Bool.false_ne_true
  unfold openWindow createWindow WindowHost.create
  rw [if_neg ho]
  dsimp only
  cases hr : s.world.openWindow s.targetUrl with
  | mk w res =>
    rw [hr] at hl
    have ha (win : WindowHost) :
        Account s [.openWindow s.targetUrl] { s.inWorld w with window := win } :=
      ⟨rfl, rfl, rfl, hl, rfl, rfl⟩
    cases res with
    | error e =>
      exact ⟨_, (ha s.window).quietly (aside_note _ rfl).toAccount, hq, rfl, rfl, rfl,
        .inr ⟨hw, rfl⟩⟩
    | ok u =>
      dsimp only
      obtain ⟨es, h₁, hq₁, hm₁⟩ :=
        aside_markRunning { s.inWorld w with window := ⟨true⟩ } hm
      have h₂ := h₁.quietly (aside_note (n := .initialized) _ rfl)
      have hopen := congrArg WindowHost.isOpen h₂.window
      have hcycle := congrArg Machine.cycle hm₁
      have hstate := congrArg Machine.state hm₁
      exact ⟨_, (ha ⟨true⟩).trans h₂.toAccount, hq₁.append hq, h₂.backend, h₂.shutdown, hcycle,
        .inl ⟨hopen, hstate⟩⟩

theorem account_closeWindow : Account s [] s.closeWindow := by
  have hl : s.world.Later [] s.closeWindow.world := by
    change s.world.Later [] (if s.window.isOpen then s.world.note .windowClosed else s.world)
    split
    · exact s.world.later_note rfl
    · exact .refl s.world
  exact ⟨rfl, rfl, rfl, hl, rfl, rfl⟩

theorem aside_beginShutdown
    (hm : s.machine.state = .failed ∨ s.machine.state.leadsTo .shuttingDown = true) :
    ∃ es, Aside s es s.beginShutdown ∧ Quiet es ∧
      s.beginShutdown.machine.cycle = s.machine.cycle ∧
      (s.beginShutdown.machine.state = .failed ∨
        s.beginShutdown.machine.state = .shuttingDown) := by
  unfold beginShutdown
  rcases hm with hf | hl
  · rw [if_pos (by rw [hf]; rfl)]
    exact ⟨[], s.aside_refl, quiet_nil, rfl, .inl hf⟩
  · have hn : ¬s.machine.state.isTerminal = true := by
      revert hl
      cases s.machine.state <;> decide
    rw [if_neg hn]
    obtain ⟨ha, hm'⟩ := s.aside_moveTo hl
    exact ⟨_, ha, s.stepTo_quiet _, by rw [hm'], .inr (by rw [hm'])⟩

theorem aside_endShutdown
    (hm : s.machine.state = .failed ∨ s.machine.state = .shuttingDown) :
    ∃ es, Aside s es s.endShutdown ∧ Quiet es ∧
      s.endShutdown.machine.cycle = s.machine.cycle ∧
      s.endShutdown.machine.state.isTerminal = true := by
  unfold endShutdown
  rcases hm with hf | hd
  · rw [if_neg (by rw [hf]; decide)]
    exact ⟨[], s.aside_refl, quiet_nil, rfl, by rw [hf]; rfl⟩
  · rw [if_pos hd]
    obtain ⟨ha, hm'⟩ := s.aside_moveTo (t := .terminated) (by rw [hd]; rfl)
    exact ⟨_, ha, s.stepTo_quiet _, by rw [hm'], by rw [hm']; rfl⟩

/-- A cycle that ends as it begins: its executable is missing, or the spawn call fails. -/
structure LaunchFails (s : Session) (es : List Event) (s' : Session) : Prop where
  account : Account s es s'
  acts : ∃ d call, es = [.dialog d, .note (.transition .starting .failed (s.machine.cycle + 1))] ++
      call ++ [.note (.cycleBegun (s.machine.cycle + 1))] ∧
    d.title = Problem.initializationTitle ∧
    (call = [] ∧ s.world.files.has s.world.cwd s.launch.program = false ∨
      ∃ l, call = [.spawn s.world.children.length l] ∧
        s'.world.child? s.world.children.length = none)
  machine : s'.machine = ⟨.failed, s.machine.cycle + 1⟩
  backend : s'.backend = none
  window : s'.window = s.window
  shutdown : s'.shutdown = s.shutdown
  phase : s'.phase = .hosting

/-- A cycle that begins with a new child. -/
structure Launches (s : Session) (es : List Event) (s' : Session) (h : Handle) : Prop where
  account : Account s es s'
  acts : ∃ l, es = [.note (.transition .starting .probing (s.machine.cycle + 1)),
    .spawn h.child l, .note (.cycleBegun (s.machine.cycle + 1))]
  found : s.world.files.has s.world.cwd s.launch.program = true
  child : h.child = s.world.children.length
  known : (s'.world.child? h.child).isSome = true
  unasked : h.terminationRequested = false
  machine : s'.machine = ⟨.probing, s.machine.cycle + 1⟩
  backend : s'.backend = some h
  window : s'.window = s.window
  shutdown : s'.shutdown = s.shutdown
  phase : s'.phase = .probing none

def beginning (s : Session) : Session :=
  (s.withMachine ⟨.starting, s.machine.cycle + 1⟩).note (.cycleBegun (s.machine.cycle + 1))

theorem startCycle_eq (h : s.machine.state.mayBegin = true) :
    s.startCycle = s.beginning.spawnBackend := by
  unfold startCycle Machine.beginCycle
  rw [if_pos h]
  rfl

theorem account_beginning (h : s.machine.state.mayBegin = true) :
    Account s [.note (.cycleBegun (s.machine.cycle + 1))] s.beginning :=
  ⟨rfl, rfl, rfl, s.world.later_act (e := .note (.cycleBegun _)) rfl rfl rfl,
    Machine.follow_begin h, rfl⟩

theorem launchFails_of_error {w : World} {p : Problem} (hb : s.backend = none)
    (hm : s.machine.state.mayBegin = true)
    (hr : s.beginning.world.spawnBackend s.launch s.config.readiness.markers = (w, .error p)) :
    ∃ es, LaunchFails s es (((s.beginning.inWorld w).failWith p).inPhase .hosting) := by
  obtain ⟨call, d, hl, hd, ht, hcall⟩ := World.later_spawnBackend_error hr
  have hcd : call.countP Event.isDialog = 0 := by
    rcases hcall with ⟨rfl, _⟩ | ⟨rfl, _⟩ <;> rfl
  have hcm : s.beginning.machine.replay call = some s.beginning.machine := by
    rcases hcall with ⟨rfl, _⟩ | ⟨rfl, _⟩ <;> rfl
  have h₁ : Aside s.beginning call (s.beginning.inWorld w) := .ofWorld hl hcd hcm
  obtain ⟨h₂, hm₂⟩ := (s.beginning.inWorld w).aside_failWith hd rfl
  have hacc := (s.account_beginning hm).trans (h₁.trans h₂).toAccount
  refine ⟨_, ⟨hacc.config, hacc.launch, hacc.target, hacc.world, hacc.machine, hacc.errors⟩,
    ⟨d, call, rfl, ht, hcall.imp_right ?_⟩, hm₂, h₂.backend.trans hb, h₂.window, h₂.shutdown, rfl⟩
  rintro ⟨hc, hn⟩
  have hlen : w.children.length = s.world.children.length + 1 := by rw [hl.spawned, hc]; rfl
  have hknown : (((s.beginning.inWorld w).failWith p).world.child?
      s.world.children.length).isSome = (w.child? s.world.children.length).isSome :=
    h₂.world.known s.world.children.length (show _ < w.children.length by omega)
  have hnone : w.child? s.world.children.length = none := hn
  refine ⟨s.launch, hc, ?_⟩
  rw [hnone] at hknown
  exact Option.isSome_eq_false_iff.1 hknown |> Option.isNone_iff_eq_none.1

theorem launches_of_ok {w : World} {h : Handle} (hm : s.machine.state.mayBegin = true)
    (hr : s.beginning.world.spawnBackend s.launch s.config.readiness.markers = (w, .ok h)) :
    ∃ es, Launches s es ((((s.beginning.inWorld w).hold h).moveTo .probing).inPhase
      (.probing none)) h := by
  obtain ⟨hl, hf, hi, hc, hu⟩ := World.later_spawnBackend_ok hr
  have h₁ : Account s.beginning [.spawn h.child s.launch] ((s.beginning.inWorld w).hold h) :=
    ⟨rfl, rfl, rfl, hl, rfl, rfl⟩
  obtain ⟨h₂, hm₂⟩ := ((s.beginning.inWorld w).hold h).aside_moveTo (t := .probing) rfl
  have hacc := ((s.account_beginning hm).trans h₁).trans h₂.toAccount
  have hlen : w.children.length = s.world.children.length + 1 := hl.spawned
  have hi' : h.child = s.world.children.length := hi
  have hknown := h₂.world.known h.child (show _ < w.children.length by omega)
  exact ⟨_, ⟨hacc.config, hacc.launch, hacc.target, hacc.world, hacc.machine, hacc.errors⟩,
    ⟨s.launch, rfl⟩, hf, hi', hknown.trans hc, hu, hm₂, h₂.backend, h₂.window, h₂.shutdown, rfl⟩

theorem account_startCycle (hb : s.backend = none) (hm : s.machine.state.mayBegin = true) :
    ∃ es, LaunchFails s es s.startCycle ∨ ∃ h, Launches s es s.startCycle h := by
  rw [s.startCycle_eq hm]
  unfold spawnBackend
  cases hr : s.beginning.world.spawnBackend s.launch s.config.readiness.markers with
  | mk w res =>
    have hr' : s.beginning.world.spawnBackend s.beginning.launch
      s.beginning.config.readiness.markers = (w, res) := hr
    rw [hr']
    cases res with
    | error p => exact (s.launchFails_of_error hb hm hr).imp fun _ => .inl
    | ok h => exact (s.launches_of_ok hm hr).imp fun _ hl => .inr ⟨h, hl⟩

/-- Where a backend is held, its shutdown is run to the end: its exit is seen, or it has been sent
the forceful signal. -/
def StopsHeld (es : List Event) : Prop :=
  ∀ h, s.backend = some h → ∃ w o, (s.shutdown.stop w h).2.2.2 = o ∧ o ≠ .skipped ∧
    .note (.shutdownFinished o) ∈ es ∧ (o.report.isSome = true ∨ .signal h.child .forceful ∈ es)

theorem account_stopBackend (hs : s.shutdown.stopped = false) :
    ∃ es, Account s es s.stopBackend ∧ Quiet es ∧ s.stopBackend.machine = s.machine ∧
      s.stopBackend.backend = none ∧ s.StopsHeld es := by
  unfold stopBackend
  cases hb : s.backend with
  | none => exact ⟨[], s.aside_refl.toAccount, quiet_nil, rfl, hb, by simp [StopsHeld, hb]⟩
  | some h =>
    dsimp only
    rw [Shutdown.stop_eq hs]
    obtain ⟨es, hl, hes, ho, hr⟩ :=
      Shutdown.escalate_later s.world h.requestTermination s.shutdown.grace
    have hq : Quiet es := by
      intro e he
      obtain ⟨sig, rfl⟩ := hes e he
      exact ⟨rfl, rfl, rfl⟩
    have hd : es.countP Event.isDialog = 0 := by
      simp only [List.countP_eq_zero, Bool.not_eq_true]
      exact fun e he => (hq e he).2.1
    have hm : s.machine.replay es = some s.machine := by
      refine Machine.replay_of_follow fun e he => ?_
      obtain ⟨sig, rfl⟩ := hes e he
      rfl
    dsimp only
    have hstop : (s.shutdown.stop s.world h).2.2.2 =
        (Shutdown.escalate s.world h.requestTermination s.shutdown.grace).2 := by
      rw [Shutdown.stop_eq hs]
    generalize (Shutdown.escalate s.world h.requestTermination s.shutdown.grace).2 = o
      at ho hr hstop
    generalize (Shutdown.escalate s.world h.requestTermination s.shutdown.grace).1 = w at hl
    have ha : Account s es { s.release.inWorld w with shutdown := ⟨s.shutdown.grace, true⟩ } :=
      ⟨rfl, rfl, rfl, hl, hm, by rw [hd]; rfl⟩
    have hf (m : Machine) : m.follow (.note (.shutdownFinished o)) = some m := by
      cases o with
      | skipped => exact absurd rfl ho
      | _ => rfl
    have hn := ha.trans (aside_record _ (n := .shutdownFinished o) rfl (hf _)).toAccount
    refine ⟨_, hn, ?_, rfl, rfl, ?_⟩
    · exact (quiet_single rfl rfl rfl).append hq
    · intro h' hb'
      cases hb.symm.trans hb'
      exact ⟨s.world, o, hstop, ho, List.mem_cons_self, hr.imp_right (List.mem_cons_of_mem _)⟩

theorem account_quit (hs : s.shutdown.stopped = false)
    (hm : s.machine.state = .failed ∨ s.machine.state.leadsTo .shuttingDown = true) :
    ∃ es, Account s es s.quit ∧ Quiet es ∧ s.quit.backend = none ∧
      s.quit.machine.state.isTerminal = true ∧ s.quit.machine.cycle = s.machine.cycle ∧
      s.StopsHeld es := by
  have hn := s.aside_record (n := .quitRequested s.machine.state) rfl rfl
  obtain ⟨es₁, h₁, hq₁, hc₁, hm₁⟩ :=
    (s.note (.quitRequested s.machine.state)).aside_beginShutdown hm
  have hb := h₁.backend.trans hn.backend
  -- the machine has moved and the backend is still held: what follows is about this session
  generalize hs₁ : (s.note (.quitRequested s.machine.state)).beginShutdown = s₁ at *
  obtain ⟨es₂, h₂, hq₂, hm₂, hb₂, hs₂⟩ := s₁.account_stopBackend (by rw [h₁.shutdown]; exact hs)
  obtain ⟨es₃, h₃, hq₃, hc₃, ht₃⟩ := s₁.stopBackend.aside_endShutdown (by rw [hm₂]; exact hm₁)
  have hf : Account s₁.stopBackend.endShutdown [] s₁.stopBackend.endShutdown.finish :=
    ⟨rfl, rfl, rfl, (World.Later.refl _).retouch rfl rfl rfl rfl rfl, rfl, rfl⟩
  have hquit : s.quit = s₁.stopBackend.endShutdown.finish := by rw [quit, hs₁]
  rw [hquit]
  have ha := (((hn.trans h₁).toAccount.trans h₂).trans h₃.toAccount).quietly hf
  refine ⟨_, ha, ?_, h₃.backend.trans hb₂, ht₃, ?_, ?_⟩
  · exact hq₃.append (hq₂.append (hq₁.append (quiet_single rfl rfl rfl)))
  · change s₁.stopBackend.endShutdown.machine.cycle = _
    rw [hc₃, hm₂, hc₁]
    rfl
  · intro h hh
    obtain ⟨w, o, hstop, ho, hk, hr⟩ := hs₂ h (hb.trans hh)
    have hmem {e : Event} (he : e ∈ es₂) :
        e ∈ es₃ ++ (es₂ ++ (es₁ ++ [.note (.quitRequested s.machine.state)])) :=
      List.mem_append_right _ (List.mem_append_left _ he)
    exact ⟨w, o, by rw [← hstop, h₁.shutdown]; rfl, ho, hmem hk, hr.imp_right hmem⟩

end Session
end DesktopHost
