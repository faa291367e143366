import DesktopHost.Proofs.Independence
import DesktopHost.Proofs.Windows

/-!
How a startup ends. Three things can end it: the child's exit, a quit, and the end of the readiness
race as it would come on its own. The first of them does, and at one instant they come in this
order.
-/

set_option autoImplicit false

namespace DesktopHost

namespace Race

/-- When a race for child `i` that begins now would be resolved. -/
def readyTime (limits : ReadinessConfig) (w : World) (i : Nat) : Nat :=
  (alone limits w i).1.now

/-- Where a startup from `w` on stands with its race: still before it, or in it. It will end as
the race that began in `w` would have. -/
inductive Underway (limits : ReadinessConfig) (w : World) (i : Nat) (v : World) :
    Option Race → Prop where
  | ahead (now : v.now = w.now) (ends : SameEnd (alone limits v i) (alone limits w i)) :
    Underway limits w i v none
  | on (r : Race) (child : r.child = i) (started : r.started = w.now)
    (ends : SameEnd (run limits v r) (alone limits w i)) : Underway limits w i v (some r)

variable {limits : ReadinessConfig} {w v v' : World} {i : Nat} {race : Option Race}

theorem SameEnd.trans {a b c : World × ReadinessSignal} (h : SameEnd a b) (h' : SameEnd b c) :
    SameEnd a c := ⟨h.1.trans h'.1, h.2.trans h'.2⟩

theorem Underway.alike (h : Underway limits w i v race) (ha : v.Alike i v') :
    Underway limits w i v' race := by
  cases h with
  | ahead now ends => exact .ahead (ha.now.trans now) ((sameEnd_alone ha).trans ends)
  | on r child started ends =>
    subst child
    exact .on r rfl started ((sameEnd_run ha).trans ends)

theorem Underway.now_le (h : Underway limits w i v race) : v.now ≤ readyTime limits w i := by
  cases h with
  | ahead _ ends => rw [readyTime, ← ends.1]; exact now_le_alone limits v i
  | on r _ _ ends => rw [readyTime, ← ends.1]; exact now_le_run limits v r

end Race

namespace Session

/-- The startup of child `i`, which began in `w`, has not been decided yet. -/
structure Pending (limits : ReadinessConfig) (w : World) (i : Nat) (s : Session) : Prop where
  config : s.config.readiness = limits
  held : ∃ b, s.backend = some b ∧ b.child = i
  exit : s.world.exitTime i = w.exitTime i
  quit : s.world.quitTime = w.quitTime
  race : ∃ race, s.phase = .probing race ∧ Race.Underway limits w i s.world race
  prompt : s.world.Prompt

/-- The step from `s` to `s'` decides the startup of child `i`, which began in `w`. -/
inductive Decides (limits : ReadinessConfig) (w : World) (i : Nat) (s s' : Session) : Prop where
  | exits (r : ExitReport) (seen : s.backendExit? = some r)
    (eq : s' = (s.backendExited r).inPhase .hosting)
    (exit : w.exitTime i = s.world.now) (quit : s.world.now ≤ w.quitTime)
    (ready : s.world.now ≤ Race.readyTime limits w i)
  | quits (starts : s.StartsQuitting) (exit : s.world.now < w.exitTime i)
    (quit : w.quitTime = s.world.now) (ready : s.world.now ≤ Race.readyTime limits w i)
  | readies (race : Race) (v : World) (phase : s.phase = .probing (some race))
    (started : race.started = w.now) (unseen : s.backendExit? = none)
    (resolved : race.step s.config.readiness s.world =
      .resolved v (Race.alone limits w i).2)
    (eq : s' = (s.inWorld v).becomeReady (Race.alone limits w i).2 (s.world.now - w.now))
    (exit : s.world.now < w.exitTime i) (quit : s.world.now < w.quitTime)
    (ready : Race.readyTime limits w i = s.world.now)

variable {limits : ReadinessConfig} {w : World} {i : Nat} {s s' : Session}

theorem Pending.backendExit? (h : Pending limits w i s) :
    s.backendExit? = s.world.visibleExit i := by
  obtain ⟨b, hb, rfl⟩ := h.held
  rw [Session.backendExit?, hb]
  rfl

theorem Pending.now_le (h : Pending limits w i s) :
    s.world.now ≤ Race.readyTime limits w i := by
  obtain ⟨race, -, hrace⟩ := h.race
  exact hrace.now_le

/-- What leaves the exit, the quit and the race where they were leaves the startup pending. -/
theorem Pending.unmoved {race : Option Race} {v : World} {p : Phase} (h : Pending limits w i s)
    (hv : s.world.Unmoved v) (hp : p = .probing race)
    (hrace : Race.Underway limits w i v race) :
    Pending limits w i ((s.inWorld v).inPhase p) where
  config := h.config
  held := h.held
  exit := (hv.exitTime i).trans h.exit
  quit := hv.quitTime.trans h.quit
  race := ⟨race, hp, hrace⟩
  prompt := h.prompt.atOnce (.of_eq hv.now hv.agenda)

theorem quitDue_of_receive {v : World} {r : World.Received} (h : s.world.receive = (v, r))
    (hr : r = .command .quit ∨ r = .closed) : s.world.QuitDue := by
  unfold World.receive at h
  split at h
  · next c rest hq =>
    cases h
    rcases hr with hr | hr
    · cases hr
      exact .inl (by rw [hq]; exact List.mem_cons_self)
    · cases hr
  · split at h
    · cases h
      rcases hr with hr | hr <;> cases hr
    · next hh => exact .inr (Bool.eq_false_iff.2 hh)

theorem not_quitDue_of_receive {v : World} (h : s.world.receive = (v, .nothing)) :
    ¬s.world.QuitDue := by
  unfold World.receive at h
  split at h
  · cases h
  · next hq =>
    split at h
    · next hh =>
      rintro (hm | hf)
      · rw [hq] at hm
        cases hm
      · rw [hh] at hf
        cases hf
    · cases h

theorem pending_startRace (h : Pending limits w i s) (hp : s.phase = .probing none)
    {b : Handle} (hb : s.backend = some b) : Pending limits w i (s.startRace b.child) := by
  obtain ⟨b', hb', rfl⟩ := h.held
  cases hb.symm.trans hb'
  obtain ⟨race, hp', hrace⟩ := h.race
  cases hp.symm.trans hp'
  cases hrace with
  | ahead now ends =>
    have hw : s.world.Watched (Race.start s.config.readiness s.world b.child).1 :=
      s.world.watched_startCheck
    refine h.unmoved hw.unmoved rfl (.on _ rfl now ?_)
    rw [h.config]
    exact ends

/-- A command that means nothing during startup leaves it pending. -/
theorem pending_ignore (h : Pending limits w i s) {v : World} {c : Command}
    (hv : s.world.receive = (v, .command c)) (hc : c ≠ .quit) :
    Pending limits w i ((s.inWorld v).note (.commandIgnored c)) := by
  obtain ⟨race, hp, hrace⟩ := h.race
  have ht := World.taken_receive hv
  have halike : s.world.Alike i (v.note (.commandIgnored c)) :=
    ⟨ht.now, ht.agenda, ht.health, by
      simp only [World.child?]
      rw [show (v.note (.commandIgnored c)).children = s.world.children from ht.children]⟩
  exact h.unmoved (World.unmoved_ignore hv hc _) hp (hrace.alike halike)

theorem pending_moved (h : Pending limits w i s) {r r' : Race} {v : World}
    (hp : s.phase = .probing (some r)) (hr : r.step s.config.readiness s.world = .moved v r') :
    Pending limits w i ((s.inWorld v).inPhase (.probing (some r'))) := by
  obtain ⟨race, hp', hrace⟩ := h.race
  cases hp.symm.trans hp'
  rw [h.config] at hr
  have hw := Race.watched_of_moved hr
  obtain ⟨-, p, -, hr'⟩ := Race.step_eq_moved hr
  cases hrace with
  | on _ child started ends =>
    rw [Race.run_of_moved hr] at ends
    refine h.unmoved hw.unmoved rfl (.on r' ?_ ?_ ends)
    · rw [hr']; exact child
    · rw [hr']; exact started

/-- While the race has to wait, and no exit and no quit is there, waiting leaves it pending. -/
theorem pending_wait (h : Pending limits w i s) {r : Race} (hp : s.phase = .probing (some r))
    (hr : r.step s.config.readiness s.world = .blocked) (hx : s.world.visibleExit i = none)
    (hq : ¬s.world.QuitDue) :
    s.wait = some (s.inWorld (s.world.advanceTo (r.wake limits s.world))) ∧
      Pending limits w i (s.inWorld (s.world.advanceTo (r.wake limits s.world))) := by
  obtain ⟨race, hp', hrace⟩ := h.race
  cases hp.symm.trans hp'
  rw [h.config] at hr
  have hwake : s.wake? = some (r.wake limits s.world) := by
    unfold wake? timer? Race.wake
    rw [hp, h.config]
    dsimp only
    cases s.world.nextDue? with
    | none => rfl
    | some t => exact congrArg some (Nat.min_comm _ _)
  obtain ⟨hexit, hquit⟩ := World.times_advanceTo
    (a := r.wake limits s.world) (fun t _ ht => Race.upTo_of_lt_wake ht) hx hq
  refine ⟨?_, h.config, h.held, hexit.trans h.exit, hquit.trans h.quit,
    ⟨some r, hp, ?_⟩, h.prompt.advanceTo _⟩
  · unfold wait
    rw [hp]
    dsimp only
    rw [hwake]
    rfl
  · cases hrace with
    | on _ child started ends =>
      rw [Race.run_of_blocked hr] at ends
      exact .on r child started ends

theorem decides_readies (h : Pending limits w i s) {r : Race} {v : World}
    {signal : ReadinessSignal} (hp : s.phase = .probing (some r))
    (hr : r.step s.config.readiness s.world = .resolved v signal)
    (hx : s.world.visibleExit i = none) (hq : ¬s.world.QuitDue) :
    Decides limits w i s ((s.inWorld v).becomeReady signal (v.now - r.started)) := by
  obtain ⟨race, hp', hrace⟩ := h.race
  cases hp.symm.trans hp'
  have hnow := (Race.watched_of_resolved hr).now
  cases hrace with
  | on _ child started ends =>
    have hrun := Race.run_of_resolved (h.config ▸ hr)
    rw [hrun] at ends
    obtain ⟨hend, hsignal⟩ := ends
    dsimp only at hend hsignal
    subst hsignal
    refine .readies r v hp started (h.backendExit?.trans hx) hr (by rw [started, hnow]) ?_ ?_ ?_
    · rw [← h.exit]
      exact h.prompt.now_lt_exitTime hx
    · rw [← h.quit]
      exact h.prompt.now_lt_quitTime hq
    · rw [Race.readyTime, ← hend, hnow]

theorem decides_exits (h : Pending limits w i s) {r : ExitReport} (hs : s.backendExit? = some r) :
    Decides limits w i s ((s.backendExited r).inPhase .hosting) := by
  refine .exits r hs rfl ?_ ?_ h.now_le
  · rw [← h.exit, World.exitTime_of_visible]
    rw [← h.backendExit?, hs]
    rfl
  · rw [← h.quit]
    exact s.world.now_le_firstTime _

theorem decides_quits (h : Pending limits w i s) (hx : s.backendExit? = none)
    (hq : s.world.QuitDue) (starts : s.StartsQuitting) : Decides limits w i s s' := by
  refine .quits starts ?_ ?_ h.now_le
  · rw [← h.exit]
    exact h.prompt.now_lt_exitTime (h.backendExit?.symm.trans hx)
  · rw [← h.quit, World.quitTime_of_quitDue hq]

/-- One step of a startup: it goes on, unnoticed, or it is decided now. -/
def Proceeds (limits : ReadinessConfig) (w : World) (i : Nat) (s s' : Session) : Prop :=
  Pending limits w i s' ∧ Account s [] s' ∨ Decides limits w i s s'

/-- Where neither an exit nor a command is there, it is for the race to proceed. -/
theorem proceeds_race (h : Pending limits w i s) {race : Option Race}
    (hp : s.phase = .probing race) (hreact : s.react = s.probeReadiness race)
    (hx : s.world.visibleExit i = none) (hq : ¬s.world.QuitDue) :
    ∃ s', s.step = some s' ∧ Proceeds limits w i s s' := by
  cases race with
  | none =>
    obtain ⟨b, hb, -⟩ := h.held
    refine ⟨s.startRace b.child, ?_, .inl ⟨pending_startRace h hp hb, ?_⟩⟩
    · rw [step, hreact, probeReadiness, hb]
      rfl
    · exact (s.aside_inWorld s.world.later_startCheck).toAccount.inPhase _
  | some r =>
    rw [probeReadiness] at hreact
    cases hr : r.step s.config.readiness s.world with
    | blocked =>
      rw [hr] at hreact
      obtain ⟨hwait, hpending⟩ := pending_wait h hp hr hx hq
      refine ⟨_, ?_, .inl ⟨hpending,
        (s.aside_inWorld (s.world.later_advanceTo _)).toAccount⟩⟩
      rw [step, hreact]
      exact hwait
    | moved v r' =>
      rw [hr] at hreact
      exact ⟨_, by rw [step, hreact], .inl ⟨pending_moved h hp hr,
        (s.aside_inWorld (Race.later_of_moved hr)).toAccount.inPhase _⟩⟩
    | resolved v signal =>
      rw [hr] at hreact
      exact ⟨_, by rw [step, hreact], .inr (decides_readies h hp hr hx hq)⟩

/-- A startup that is pending always proceeds. -/
theorem pending_step (h : Pending limits w i s) :
    ∃ s', s.step = some s' ∧ Proceeds limits w i s s' := by
  obtain ⟨race, hp, -⟩ := h.race
  have hstep {s' : Session} (hr : s.react = some s') : s.step = some s' := by rw [step, hr]
  -- the session looks for an exit first, then for a command, and only then at the race
  cases he : s.backendExit? with
  | some r =>
    refine ⟨_, hstep ?_, .inr (decides_exits h he)⟩
    unfold react probe
    rw [hp]
    dsimp only
    rw [he]
  | none =>
    cases hw : s.world.receive with
    | mk v received =>
      have hreact := react_probing hp he hw
      have hquit (hr : received = .command .quit ∨ received = .closed) :
          Decides limits w i s (s.inWorld v).quit :=
        decides_quits h he (quitDue_of_receive hw hr)
          ((startsQuitting_probing hp).2 ⟨he, by rw [hw]; exact hr⟩)
      cases received with
      | nothing =>
        exact proceeds_race h hp hreact (h.backendExit?.symm.trans he) (not_quitDue_of_receive hw)
      | closed => exact ⟨_, hstep hreact, .inr (hquit (.inr rfl))⟩
      | command c =>
        have hignore (hc : c ≠ .quit) :
            Proceeds limits w i s ((s.inWorld v).note (.commandIgnored c)) :=
          .inl ⟨pending_ignore h hw hc, ((s.aside_inWorld (World.later_receive _ hw)).quietly
            (aside_note _ rfl)).toAccount⟩
        cases c with
        | quit => exact ⟨_, hstep hreact, .inr (hquit (.inl rfl))⟩
        | activate => exact ⟨_, hstep hreact, hignore (by decide)⟩
        | windowClosed => exact ⟨_, hstep hreact, hignore (by decide)⟩

/-- A quit in the middle of a cycle ends it in order. -/
theorem quit_machine (h : s.machine.state.leadsTo .shuttingDown = true) :
    s.quit.machine = ⟨.terminated, s.machine.cycle⟩ := by
  have hstop (s : Session) : s.stopBackend.machine = s.machine := by
    unfold stopBackend
    split <;> rfl
  have hbegin : (s.note (.quitRequested s.machine.state)).beginShutdown.machine =
      ⟨.shuttingDown, s.machine.cycle⟩ := by
    have hn : ¬(s.note (.quitRequested s.machine.state)).machine.state.isTerminal = true := by
      change ¬s.machine.state.isTerminal = true
      revert h
      cases s.machine.state <;> decide
    rw [beginShutdown, if_neg hn]
    exact (aside_moveTo (s.note _) h).2
  have hend {s : Session} {n : Nat} (hm : s.machine = ⟨.shuttingDown, n⟩) :
      s.endShutdown.machine = ⟨.terminated, n⟩ := by
    rw [endShutdown, if_pos (by rw [hm]), (s.aside_moveTo (by rw [hm]; rfl)).2, hm]
  exact hend ((hstop _).trans hbegin)

end Session

namespace Opening

open Session

variable {o : Opening} {k : Nat}

/-- A child that was spawned and is there belongs to a cycle that has just been launched. -/
theorem launches_of_spawn {i : Nat} {l : Launch} (spawned : .spawn i l ∈ o.news k)
    (lives : ((o.state (k + 1)).world.child? i).isSome = true) :
    ∃ b, b.child = i ∧ (o.state k).backend = none ∧
      Launches (o.state k) (o.news k) (o.state (k + 1)) b := by
  cases (o.stepped k).turn with
  | goesOn _ _ _ quiet => cases (quiet _ spawned).1
  | stops _ _ _ quiet => cases (quiet _ spawned).1
  | notices b r _ _ _ _ acts =>
    obtain ⟨rest, hq, he⟩ := acts
    rw [he, List.mem_append] at spawned
    rcases spawned with hs | hs
    · cases (mem_crashActs hs).1
    · cases (hq _ hs).1
  | launchFails _ _ fails =>
    obtain ⟨d, call, he, -, ⟨rfl, -⟩ | ⟨l', rfl, hnone⟩⟩ := fails.acts
    · simp [he] at spawned
    · obtain ⟨rfl, -⟩ : i = (o.state k).world.children.length ∧ l = l' := by
        simpa [he] using spawned
      rw [hnone] at lives
      cases lives
  | launches b free _ launches =>
    obtain ⟨l', he⟩ := launches.acts
    have hi : i = b.child ∧ l = l' := by simpa [he] using spawned
    exact ⟨b, hi.1.symm, free, launches⟩

theorem pending_of_launches {b : Handle}
    (h : Launches (o.state k) (o.news k) (o.state (k + 1)) b) :
    Pending o.config.readiness (o.state (k + 1)).world b.child (o.state (k + 1)) where
  config := by rw [config_eq]
  held := ⟨b, h.backend, rfl⟩
  exit := rfl
  quit := rfl
  race := ⟨none, h.phase, .ahead rfl ⟨rfl, rfl⟩⟩
  prompt := o.prompt (k + 1) fun t ht => by
    rw [h.phase] at ht
    cases ht

variable (o) in
/-- After step `k` child `i` is starting up, and in step `m` this still goes on unnoticed. -/
structure Awaits (k i m : Nat) : Prop where
  pending : Pending o.config.readiness (o.state (k + 1)).world i (o.state m)
  story : o.story m = o.story (k + 1)
  machine : (o.state m).machine = (o.state (k + 1)).machine

/-- A startup is decided after finitely many steps, and goes on unnoticed until then. -/
theorem exists_decided {i : Nat} (h : o.Awaits k i (k + 1)) :
    ∃ j, k < j ∧ (∀ m, k < m → m ≤ j → o.Awaits k i m) ∧
      Decides o.config.readiness (o.state (k + 1)).world i (o.state j) (o.state (j + 1)) := by
  have hgo (d : Nat) : (∀ m, k < m → m ≤ k + 1 + d → o.Awaits k i m) ∨
      ∃ j, k < j ∧ (∀ m, k < m → m ≤ j → o.Awaits k i m) ∧
        Decides o.config.readiness (o.state (k + 1)).world i (o.state j) (o.state (j + 1)) := by
    induction d with
    | zero =>
      refine .inl fun m hlt hle => ?_
      rw [show m = k + 1 by omega]
      exact h
    | succ d ih =>
      rcases ih with ih | ih
      · have hd := ih (k + 1 + d) (by omega) (Nat.le_refl _)
        obtain ⟨s', hs, hnext⟩ := pending_step hd.pending
        rw [← o.state_succ_of_step hs] at hnext
        rcases hnext with ⟨hpending, hacc⟩ | hdecides
        · refine .inl fun m hlt hle => ?_
          rcases Nat.le_or_eq_of_le_succ hle with hle | rfl
          · exact ih m hlt hle
          · exact ⟨hpending, hacc.world.acts.trans hd.story, hacc.machine_eq.trans hd.machine⟩
        · exact .inr ⟨k + 1 + d, by omega, ih, hdecides⟩
      · exact .inr ih
  -- a run has a last state, but a startup that goes on has a next one
  obtain ⟨K, -, hK⟩ := o.play_eq_state
  rcases hgo K with hall | hdecided
  · have hlast : o.state (k + 1 + K) = o.state K := state_of_stuck hK (by omega)
    obtain ⟨s', hs, -⟩ :=
      pending_step (hall (k + 1 + K) (by omega) (Nat.le_refl _)).pending
    rw [hlast, hK] at hs
    cases hs
  · exact hdecided

/-- Once a cycle has lost its backend, it shows no more dialogs and asks for no more windows. -/
theorem during_of_free {j n : Nat} (hb : (o.state j).backend = none)
    (hn : (o.state j).machine.cycle = n) {m : Nat} (hm : j ≤ m) :
    n ≤ (o.state m).machine.cycle ∧
    ((o.state m).machine.cycle = n → (o.state m).backend = none) ∧
    titles (during n (o.story m)) = titles (during n (o.story j)) ∧
    ∀ url, .openWindow url ∈ during n (o.story m) → .openWindow url ∈ during n (o.story j) := by
  induction m, hm using Nat.le_induction with
  | base => exact ⟨Nat.le_of_eq hn.symm, fun _ => hb, rfl, fun _ h => h⟩
  | succ m _ ih =>
    obtain ⟨hle, hfree, ht, hw⟩ := ih
    obtain ⟨hc, -, hd⟩ | ⟨hc, -, hd⟩ := o.during_succ m n
    · by_cases hmn : (o.state m).machine.cycle = n
      · have hnone := hfree hmn
        have hquiet : titles (o.news m) = [] ∧ (o.state (m + 1)).backend = none := by
          cases (o.stepped m).turn with
          | goesOn backend _ _ quiet => exact ⟨quiet.titles, backend.trans hnone⟩
          | stops given _ _ quiet => exact ⟨quiet.titles, given⟩
          | notices b _ held => cases hnone.symm.trans held
          | launchFails _ _ fails =>
            rw [fails.machine] at hc
            exact absurd hc (Nat.succ_ne_self _)
          | launches b _ _ launches =>
            rw [launches.machine] at hc
            exact absurd hc (Nat.succ_ne_self _)
        rw [hd, if_pos hmn]
        -- a window is only asked for by a session that holds its backend
        refine ⟨by omega, fun _ => hquiet.2, ?_, fun url h => ?_⟩
        · rw [titles_append, hquiet.1, ht]
          rfl
        · rcases List.mem_append.1 h with h | h
          · obtain ⟨b, s₁, gate, -⟩ := gate_of_news h
            cases hnone.symm.trans gate.held
          · exact hw url h
      · rw [hd, if_neg hmn]
        exact ⟨by omega, fun h => absurd (hc.symm.trans h) hmn, ht, hw⟩
    · rw [hd, if_neg (by omega)]
      exact ⟨by omega, fun h => by omega, ht, hw⟩

variable (o)

/-- Step `j` notices the child's exit and fails cycle `n`, which shows a dialog only of a crash and
never asks for a window. -/
structure StartupFails (j n : Nat) : Prop where
  machine : (o.state (j + 1)).machine = ⟨.failed, n⟩
  told : ∃ r, (o.state j).noticed? = some r ∧ ∀ m, j < m →
    titles (during n (o.story m)) = if r.code = some 0 then [] else [Problem.backendTitle]
  windowless : ∀ m url, j < m → .openWindow url ∉ during n (o.story m)

/-- Step `j` handles a quit and stops child `i` of cycle `n`, and with this the run is over. -/
structure StartupStops (j i n : Nat) : Prop where
  starts : (o.state j).StartsQuitting
  stopped : ∃ b w outcome, (o.state j).backend = some b ∧ b.child = i ∧
    ((o.state j).shutdown.stop w b).2.2.2 = outcome ∧ outcome ≠ .skipped ∧
    .note (.shutdownFinished outcome) ∈ o.news j
  machine : (o.state (j + 1)).machine = ⟨.terminated, n⟩
  finished : ∃ t, (o.state (j + 1)).phase = .finished t
  final : ∀ m, j < m → o.state m = o.state (j + 1)
  untold : ∀ m, j < m → titles (during n (o.story m)) = []
  windowless : ∀ m url, j < m → .openWindow url ∉ during n (o.story m)

/-- In step `j` cycle `n` is found ready, and the window is asked for, once; the session is running
afterwards if the window came, and else it stays ready. -/
structure StartupSucceeds (j n : Nat) (signal : ReadinessSignal) (elapsed : Nat) : Prop where
  windowless : ∀ url, .openWindow url ∉ during n (o.story j)
  asks : ∃ after s b, o.news j = after ++ .openWindow s.targetUrl ::
      [.note (.transition .probing .ready n), .note (.readinessResolved signal elapsed)] ∧
    (∀ url, .openWindow url ∉ after) ∧
    o.AsksAs j [.note (.transition .probing .ready n), .note (.readinessResolved signal elapsed)]
      s b ∧
    s.machine = ⟨.ready, n⟩ ∧
    (o.state (j + 1)).machine =
      ⟨if (s.world.openWindow s.targetUrl).2.isOk = true then .running else .ready, n⟩
  hosting : (o.state (j + 1)).phase = .hosting

variable {o} {i j n : Nat} {b : Handle}

/-- What startup finds in the record of its cycle: no dialog and no window so far. -/
structure Fresh (o : Opening) (j n : Nat) (b : Handle) : Prop where
  held : (o.state j).backend = some b
  machine : (o.state j).machine = ⟨.probing, n⟩
  untold : titles (during n (o.story j)) = []
  windowless : ∀ url, .openWindow url ∉ during n (o.story j)

theorem fresh_of_awaits (h : Launches (o.state k) (o.news k) (o.state (k + 1)) b)
    (ha : o.Awaits k b.child j) (hn : (o.state (k + 1)).machine.cycle = n) :
    ∃ b', b'.child = b.child ∧ o.Fresh j n b' := by
  obtain ⟨b', hb', hchild⟩ := ha.pending.held
  have hc : (o.state (k + 1)).machine.cycle = (o.state k).machine.cycle + 1 := by
    rw [h.machine]
  have hm : (o.state (k + 1)).machine = ⟨.probing, n⟩ := by rw [← hn, h.machine]
  have hd : during n (o.story j) = o.news k := by
    rw [ha.story, ← hn, hc]
    exact during_begun hc
  obtain ⟨l, hl⟩ := h.acts
  refine ⟨b', hchild, hb', ha.machine.trans hm, ?_, fun url => ?_⟩
  · rw [hd, hl]
    rfl
  · rw [hd, hl]
    simp

theorem during_succ_of_kept (h : (o.state j).machine.cycle = n)
    (h' : (o.state (j + 1)).machine.cycle = n) :
    during n (o.story (j + 1)) = o.news j ++ during n (o.story j) := by
  obtain ⟨-, -, hd⟩ | ⟨hc, -⟩ := o.during_succ j n
  · rw [hd, if_pos h]
  · omega

theorem startupFails_of_exit {race : Option Race} {r : ExitReport} (h : o.Fresh j n b)
    (hp : (o.state j).phase = .probing race) (hs : (o.state j).backendExit? = some r)
    (eq : o.state (j + 1) = ((o.state j).backendExited r).inPhase .hosting) :
    o.StartupFails j n := by
  have hup := (Sound.probing hp).1 (o.sound j)
  have hseen : (o.state j).noticed? = some r := (noticed?_probing hp).trans hs
  obtain ⟨hj, hm⟩ := (o.state j).release.aside_judgeExit_probing r (hup.unasked b h.held) hup.state
  obtain ⟨he, -⟩ := (o.state j).account_backendExited h.held hj
  have hmachine : (o.state (j + 1)).machine = ⟨.failed, n⟩ := by
    rw [eq]
    refine (congrArg Session.machine he).trans (hm.trans ?_)
    rw [show (o.state j).release.machine = ⟨.probing, n⟩ from h.machine]
  have hcycle : (o.state (j + 1)).machine.cycle = n := by rw [hmachine]
  have hd := during_succ_of_kept (by rw [h.machine]) hcycle
  obtain ⟨hnone, ht⟩ : (o.state (j + 1)).backend = none ∧
      titles (o.news j) = if r.code = some 0 then [] else [Problem.backendTitle] := by
    cases (o.stepped j).turn with
    | notices _ r' _ seen given _ acts =>
      cases hseen.symm.trans seen
      obtain ⟨rest, hq, hacts⟩ := acts
      exact ⟨given, crash_titles hq hacts⟩
    | goesOn _ _ unseen => cases hseen.symm.trans unseen
    | stops _ _ unseen => cases hseen.symm.trans unseen
    | launchFails free => cases h.held.symm.trans free
    | launches _ free => cases h.held.symm.trans free
  refine ⟨hmachine, ⟨r, hseen, fun m hlt => ?_⟩, fun m url hlt hmem => ?_⟩
  · obtain ⟨-, -, htitles, -⟩ := during_of_free hnone hcycle hlt
    rw [htitles, hd, titles_append, ht, h.untold, List.append_nil]
  · obtain ⟨-, -, -, hopens⟩ := during_of_free hnone hcycle hlt
    have hmem := hopens url hmem
    rw [hd, List.mem_append] at hmem
    rcases hmem with hmem | hmem
    · obtain ⟨b', s₁, gate, heq⟩ := gate_of_news hmem
      obtain ⟨-, -, -, hkept, -⟩ := s₁.account_openWindow gate.closed gate.upright
      rw [heq] at hnone
      cases hnone.symm.trans (hkept.trans gate.holds)
    · exact h.windowless url hmem

theorem startupStops_of_quit (h : o.Fresh j n b) (hs : (o.state j).StartsQuitting) :
    o.StartupStops j b.child n := by
  obtain ⟨t, ht⟩ := finished_of_startsQuitting hs
  obtain ⟨s₁, about, eq⟩ := (o.move j).quit_of_starts hs
  have hm₁ : s₁.machine = ⟨.probing, n⟩ := about.machine.trans h.machine
  have hmachine : (o.state (j + 1)).machine = ⟨.terminated, n⟩ := by
    rw [eq, s₁.quit_machine (by rw [hm₁]; rfl), hm₁]
  have hfinal {m : Nat} (hlt : j < m) : o.state m = o.state (j + 1) := state_of_finished ht hlt
  have hstory {m : Nat} (hlt : j < m) :
      during n (o.story m) = o.news j ++ during n (o.story j) := by
    rw [story, hfinal hlt]
    exact during_succ_of_kept (by rw [h.machine]) (by rw [hmachine])
  have hnone : (o.state (j + 1)).backend = none := ((Sound.finished ht).1 (o.sound _)).2
  cases (o.stepped j).turn with
  | goesOn backend => cases hnone.symm.trans (backend.trans h.held)
  | launchFails free => cases h.held.symm.trans free
  | launches _ free => cases h.held.symm.trans free
  | notices _ _ _ seen => cases hs.1.symm.trans seen
  | stops _ _ _ quiet stopped =>
    obtain ⟨w, outcome, hrun, hdone, hnote, -⟩ := stopped b h.held
    refine ⟨hs, ⟨b, w, outcome, h.held, rfl, hrun, hdone, hnote⟩, hmachine, ⟨t, ht⟩,
      fun m => hfinal, fun m hlt => ?_, fun m url hlt hmem => ?_⟩
    · rw [hstory hlt, titles_append, quiet.titles, h.untold]
      rfl
    · rw [hstory hlt, List.mem_append] at hmem
      rcases hmem with hmem | hmem
      · cases ending_of_startsQuitting hs hmem rfl
      · exact h.windowless url hmem

theorem startupSucceeds_of_resolved {race : Race} {v : World} {signal : ReadinessSignal}
    {elapsed : Nat} (h : o.Fresh j n b) (hp : (o.state j).phase = .probing (some race))
    (hx : (o.state j).backendExit? = none)
    (hr : race.step (o.state j).config.readiness (o.state j).world = .resolved v signal)
    (he : v.now - race.started = elapsed)
    (eq : o.state (j + 1) = ((o.state j).inWorld v).becomeReady signal elapsed) :
    o.StartupSucceeds j n signal elapsed := by
  have hup := (Sound.probing hp).1 (o.sound j)
  subst he
  obtain ⟨hgate, hm, hacc⟩ := gate_of_resolved hp hup h.held hx hr rfl
  obtain ⟨after, before, hnews, hafter, -, hasks⟩ := asksAs_of_gate hgate eq
  have hstep : (o.state j).stepTo .ready = .note (.transition .probing .ready n) := by
    rw [stepTo, h.machine]
  have hbefore : before = [.note (.transition .probing .ready n),
      .note (.readinessResolved signal (v.now - race.started))] := by
    rw [← hstep]
    exact List.append_cancel_right (hasks.acts.symm.trans hacc.world.acts)
  rw [hbefore] at hnews hasks
  rw [h.machine] at hm
  refine ⟨h.windowless, ⟨after, _, b, hnews, fun url hmem => ?_, hasks, hm, ?_⟩, by rw [eq]; rfl⟩
  · cases hafter _ hmem
  · obtain ⟨-, -, -, ⟨hok, -, hrun⟩ | ⟨hfails, -, hstay⟩⟩ :=
      account_asks hgate.closed hgate.upright
    · rw [if_pos hok, eq]
      exact hrun.trans (by rw [hm])
    · rw [if_neg (by rw [hfails]; exact Bool.false_ne_true), eq]
      exact hstay.trans hm

theorem launches_at_once (h : Launches (o.state k) (o.news k) (o.state (k + 1)) b)
    (free : (o.state k).backend = none) :
    (o.state (k + 1)).world.now = (o.state k).world.now := by
  cases o.move k with
  | other _ _ atOnce => exact atOnce.now
  | quits s₁ _ _ eq =>
    have hp := h.phase
    rw [eq] at hp
    cases hp
  | opens b s₁ _ gate => cases free.symm.trans gate.held
  | waits t _ _ _ eq =>
    have hm := congrArg Machine.cycle h.machine
    rw [eq] at hm
    exact absurd hm.symm (Nat.succ_ne_self _)

/-- The startup of a child, from the instant at which it is spawned, is decided by the first of
three: its exit can be seen, a quit is due, or the readiness race is resolved; and at one instant
by the first in this order. Until then the session is probing, does nothing that would change when
they come, and does not wait for longer than the startup timeout. -/
theorem startup_decided {l : Launch} (spawned : .spawn i l ∈ o.news k)
    (lives : ((o.state (k + 1)).world.child? i).isSome = true) {w : World}
    (start : (o.state (k + 1)).world = w) (cycle : (o.state (k + 1)).machine.cycle = n) :
    w.now = (o.state k).world.now ∧
    Race.readyTime o.config.readiness w i ≤ w.now + o.config.readiness.startupTimeout ∧
    ∃ j, k < j ∧
      (∀ m, k < m → m ≤ j → (o.state m).machine = ⟨.probing, n⟩ ∧
        o.story m = o.story (k + 1) ∧
        (o.state m).world.exitTime i = w.exitTime i ∧ (o.state m).world.quitTime = w.quitTime ∧
        (o.state m).world.now ≤ w.now + o.config.readiness.startupTimeout) ∧
      ((o.state j).world.now : ℕ∞) =
        min (w.exitTime i) (min w.quitTime (Race.readyTime o.config.readiness w i)) ∧
      (w.exitTime i ≤ min w.quitTime (Race.readyTime o.config.readiness w i) →
        o.StartupFails j n) ∧
      (w.quitTime < w.exitTime i → w.quitTime ≤ Race.readyTime o.config.readiness w i →
        o.StartupStops j i n) ∧
      (Race.readyTime o.config.readiness w i < w.exitTime i →
        Race.readyTime o.config.readiness w i < w.quitTime →
        o.StartupSucceeds j n (Race.alone o.config.readiness w i).2
          (Race.readyTime o.config.readiness w i - w.now)) := by
  obtain ⟨b, rfl, free, hl⟩ := launches_of_spawn spawned lives
  obtain ⟨j, hkj, hall, hdecides⟩ := exists_decided ⟨pending_of_launches hl, rfl, rfl⟩
  rw [start] at hdecides
  have htimeout := Race.alone_le_timeout o.config.readiness w b.child
  have hj := hall j hkj (Nat.le_refl j)
  obtain ⟨b', hchild, hfresh⟩ := fresh_of_awaits hl hj cycle
  refine ⟨by rw [← start, launches_at_once hl free], htimeout, j, hkj, fun m hlt hle => ?_, ?_⟩
  · have hm := hall m hlt hle
    obtain ⟨_, -, hprobing⟩ := fresh_of_awaits hl hm cycle
    have hpending := hm.pending
    rw [start] at hpending
    exact ⟨hprobing.machine, hm.story, hpending.exit, hpending.quit,
      Nat.le_trans hpending.now_le htimeout⟩
  · obtain ⟨race, hp, -⟩ := hj.pending.race
    -- whichever it is, its time is known to come before the others or to stand first among them
    cases hdecides with
    | exits r seen eq exit quit ready =>
      rw [exit]
      have hle : ((o.state j).world.now : ℕ∞) ≤
          min w.quitTime (Race.readyTime o.config.readiness w b.child) :=
        le_min quit (Nat.cast_le.2 ready)
      refine ⟨(min_eq_left hle).symm, fun _ => startupFails_of_exit hfresh hp seen eq,
        fun hlt => absurd quit (not_le.2 hlt), fun hlt => ?_⟩
      exact absurd (Nat.cast_le.2 ready) (not_le.2 hlt)
    | quits starts exit quit ready =>
      rw [quit]
      have hle := Nat.cast_le (α := ℕ∞).2 ready
      refine ⟨?_, fun h => ?_, fun _ _ => ?_, fun _ hlt => absurd hle (not_le.2 hlt)⟩
      · rw [min_eq_left hle, min_eq_right exit.le]
      · exact absurd (h.trans (min_le_left _ _)) (not_le.2 exit)
      · rw [← hchild]
        exact startupStops_of_quit hfresh starts
    | readies race v phase started unseen resolved eq exit quit ready =>
      rw [ready]
      refine ⟨?_, fun h => ?_, fun _ h => absurd h (not_le.2 quit), fun _ _ => ?_⟩
      · rw [min_eq_right quit.le, min_eq_right exit.le]
      · exact absurd (h.trans (min_le_right _ _)) (not_le.2 exit)
      · refine startupSucceeds_of_resolved hfresh phase unseen resolved ?_ eq
        rw [started, (Race.watched_of_resolved resolved).now]

/-- A child that crashes after five milliseconds. -/
def brief : ChildScript := { ChildScript.inert with exit := some (5, some 3) }

def briefWorld : World :=
  { World.empty with
    files := ⟨[([[98]], .file true)]⟩
    childScripts := [brief] }

/-- A run with such a child. -/
def briefRun : Opening where
  config := .forMode .production
  program := [47, 98]
  world := briefWorld
  session := {
    config := .forMode .production
    launch := .forExecutable [47, 98] (Config.forMode .production).backendEnv
    targetUrl := "http://localhost:8400/"
    world := briefWorld
    machine := .new
    backend := none
    window := .new
    shutdown := .new (Config.forMode .production).shutdownGrace
    errorsReported := 0
    phase := .launching }
  opened := by rfl
  childless := rfl
  blank := rfl

theorem briefRun_quiet {t : Nat} (h : t < 5) :
    (briefRun.state 1).world.advanceTo t = (briefRun.state 1).world.withClock t := by
  have hnext : (briefRun.state 1).world.nextDue? = some 5 := by rfl
  have hnow : max (briefRun.state 1).world.now t = t := Nat.max_eq_right (Nat.zero_le t)
  rw [World.advanceTo_of_upTo_nil, hnow]
  refine World.upTo_of_lt_next _ fun u hu => ?_
  cases hnext.symm.trans hu
  exact h

/-- Where no check is answered and nothing is said, its startup fails by then. -/
theorem brief_startup : ∃ j, 0 < j ∧ (briefRun.state j).world.now = 5 ∧
    briefRun.StartupFails j 1 := by
  obtain ⟨-, -, j, hj, -, hnow, hfails, -⟩ := startup_decided (o := briefRun) (k := 0) (i := 0)
    (l := briefRun.session.launch) (by decide) (by decide) rfl (show _ = 1 from rfl)
  have hexit : (briefRun.state 1).world.exitTime 0 = (5 : ℕ) := by
    refine le_antisymm (World.firstTime_le _ (by decide) (by decide))
      (World.le_firstTime _ fun t _ ht => ?_)
    rw [briefRun_quiet ht]
    exact Bool.false_ne_true
  have hquit : (5 : ℕ) ≤ (briefRun.state 1).world.quitTime := by
    refine World.le_firstTime _ fun t _ ht => ?_
    rw [briefRun_quiet ht]
    rintro (hm | hf)
    · cases hm
    · cases hf
  have hready : 5 ≤ Race.readyTime briefRun.config.readiness (briefRun.state 1).world 0 := by
    refine Race.le_alone (fun t _ ht => ?_) ?_ (by decide)
    · rw [briefRun_quiet ht]
      rfl
    · exact Nat.le_trans (by decide) (Poll.due_le_run _ (by decide))
  have hfirst : (5 : ℕ) ≤ min (briefRun.state 1).world.quitTime
      (Race.readyTime briefRun.config.readiness (briefRun.state 1).world 0 : ℕ∞) :=
    le_min hquit (Nat.cast_le.2 hready)
  rw [hexit] at hnow hfails
  rw [min_eq_left hfirst] at hnow
  exact ⟨j, hj, Nat.cast_injective hnow, hfails hfirst⟩

end Opening
end DesktopHost
