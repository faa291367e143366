import DesktopHost.Proofs.Windows

/-!
What keeps a session going that ends with its last window: a backend, an open window, or the hope
of being activated again after its window did not come and its backend has left in good order.
-/

set_option autoImplicit false

namespace DesktopHost

namespace Session

variable {s s' : Session}

/-- How a session that ends with its last window comes to rest. -/
inductive ComesToRest (s s' : Session) : Prop where
  | asks (b : Handle) (s₁ : Session) (gate : s.Gate b s₁)
      (eq : s' = s₁.openWindow.inPhase .hosting)
  | fails (state : s'.machine.state = .failed)
  | loses (b : Handle) (r : ExitReport) (phase : s.phase = .hosting)
      (held : s.backend = some b) (seen : s.noticed? = some r) (clean : r.isSuccess = true)
      (given : s'.backend = none) (machine : s'.machine = s.machine)
      (window : s'.window = s.window)
  | stays (phase : s.phase = .hosting) (backend : s'.backend = s.backend)
      (machine : s'.machine = s.machine) (window : s'.window = s.window)

theorem rests_startCycle (hb : s.backend = none) (hm : s.machine.state.mayBegin = true)
    (hp : s.startCycle.phase = .hosting ∨ s.startCycle.phase = .reviving) :
    s.startCycle.machine.state = .failed := by
  obtain ⟨es, hf | ⟨b, hl⟩⟩ := s.account_startCycle hb hm
  · rw [hf.machine]
  · rw [hl.phase] at hp
    rcases hp with h | h <;> cases h

theorem rests_probe {race : Option Race} (hp : s.phase = .probing race) (h : s.StartingUp)
    (hs : s.react = some s') (hp' : s'.phase = .hosting ∨ s'.phase = .reviving) :
    ComesToRest s s' := by
  have hbusy {s₁ : Session} {r : Option Race} (hs₁ : s₁.phase = .probing r) : ¬(
      s₁.phase = .hosting ∨ s₁.phase = .reviving) := by
    rw [hs₁]
    rintro (h | h) <;> cases h
  cases he : s.backendExit? with
  | some r =>
    obtain ⟨b, hb, -⟩ := held_of_backendExit he
    obtain ⟨-, hm⟩ := s.release.aside_judgeExit_probing r (h.unasked b hb) h.state
    unfold react probe at hs
    rw [hp] at hs
    dsimp only at hs
    rw [he] at hs
    cases hs
    refine .fails ?_
    change (s.backendExited r).machine.state = .failed
    rw [backendExited, hb]
    exact congrArg Machine.state hm
  | none =>
    cases hw : s.world.receive with
    | mk w received =>
      rw [react_probing hp he hw] at hs
      cases received with
      | closed => cases hs; rcases hp' with h | h <;> cases h
      | command c =>
        cases c with
        | quit => cases hs; rcases hp' with h | h <;> cases h
        | activate => cases hs; exact absurd hp' (hbusy (r := race) hp)
        | windowClosed => cases hs; exact absurd hp' (hbusy (r := race) hp)
      | nothing =>
        change s.probeReadiness race = some s' at hs
        unfold probeReadiness at hs
        split at hs
        · obtain ⟨b, -, rfl⟩ := Option.map_eq_some_iff.1 hs
          exact absurd hp' (hbusy rfl)
        · split at hs
          · cases hs
          · cases hs
            exact absurd hp' (hbusy rfl)
          · next hr =>
            cases hs
            obtain ⟨b, hb⟩ := Option.isSome_iff_exists.1 h.held
            exact .asks b _ (gate_of_resolved hp h hb he hr rfl).1 rfl

theorem rests_host (hq : s.config.quitOnLastWindowClosed = true) (hp : s.phase = .hosting)
    (h : s.AtRest) (hs : s.react = some s') (hp' : s'.phase = .hosting ∨ s'.phase = .reviving) :
    ComesToRest s s' := by
  cases hl : s.nothingLeft with
  | true =>
    unfold react host at hs
    rw [hp] at hs
    dsimp only at hs
    rw [hl] at hs
    cases hs
    rcases hp' with h | h <;> cases h
  | false =>
    cases he : s.backendExit? with
    | some r =>
      obtain ⟨b, hb, -⟩ := held_of_backendExit he
      obtain ⟨hj, hm⟩ := s.release.aside_judgeExit_hosting r (h.unasked b hb) (h.upright hb)
      obtain ⟨hx, -, hnone, hwindow, -⟩ := s.account_backendExited hb hj
      unfold react host at hs
      rw [hp] at hs
      dsimp only at hs
      rw [hl, he] at hs
      cases hs
      rw [← hx] at hm
      cases hc : r.isSuccess with
      | true =>
        rw [hc, if_pos rfl] at hm
        exact .loses b r hp hb ((noticed?_hosting hp).trans he) hc hnone hm hwindow
      | false =>
        rw [hc, if_neg Bool.false_ne_true] at hm
        exact .fails (by rw [hm])
    | none =>
      cases hw : s.world.receive with
      | mk w received =>
        rw [react_hosting hp hl he hw] at hs
        cases received with
        | closed => cases hs; rcases hp' with h | h <;> cases h
        | nothing => cases hs
        | command c =>
          cases hs
          cases c with
          | quit => rcases hp' with h | h <;> cases h
          | windowClosed =>
            rw [show (s.inWorld w).handleCommand .windowClosed = (s.inWorld w).closeWindow.quit from
              if_pos hq] at hp'
            rcases hp' with h | h <;> cases h
          | activate =>
            change ComesToRest s (s.inWorld w).activate
            unfold activate
            split
            · exact .stays hp rfl rfl rfl
            · rw [publishedExit?_of_unseen he hw]
              exact .stays hp rfl rfl rfl

theorem rests_revive (hp : s.phase = .reviving) (h : s.AtRest) (hw : s.windowOpen = false)
    (he : s.publishedExit? = none) (hp' : s.revive.phase = .hosting ∨ s.revive.phase = .reviving) :
    ComesToRest s s.revive := by
  cases hb : s.backend with
  | some b =>
    have halive := alive_of_held he hb
    rw [publishedExit?, hb, Option.bind_some] at he
    unfold revive
    rw [if_pos halive]
    exact .asks b s ⟨hb, hb, he, hw, h.upright hb, rfl, rfl, rfl, .refl _, rfl, .inl ⟨hp, rfl⟩⟩ rfl
  | none =>
    have hgone : ¬s.backendAlive = true := by simp [backendAlive, hb]
    unfold revive at hp' ⊢
    rw [if_neg hgone] at hp' ⊢
    exact .fails (rests_startCycle (s := s.note .restarting) hb h.mayBegin hp')

theorem comesToRest (hq : s.config.quitOnLastWindowClosed = true) (h : Sound s)
    (hs : s.react = some s') (hp' : s'.phase = .hosting ∨ s'.phase = .reviving) :
    ComesToRest s s' := by
  cases hp : s.phase with
  | launching =>
    unfold Sound at h
    unfold react at hs
    rw [hp] at h hs
    cases hs
    exact .fails (rests_startCycle h.2.1 (by rw [h.1]; rfl) hp')
  | probing race => exact rests_probe hp ((Sound.probing hp).1 h) hs hp'
  | hosting => exact rests_host hq hp ((Sound.hosting hp).1 h) hs hp'
  | reviving =>
    obtain ⟨hrest, hw, he⟩ := (Sound.reviving hp).1 h
    unfold react at hs
    rw [hp] at hs
    cases hs
    exact rests_revive hp hrest hw he hp'
  | finished t =>
    unfold react at hs
    rw [hp] at hs
    cases hs

end Session

namespace Opening

open Session

variable (o : Opening)

/-- In step `i` the window was asked for and did not come, and the machine has not moved since. -/
structure Refused (i k : Nat) : Prop where
  before : i < k
  asked : ∃ url, .openWindow url ∈ o.news i
  closed : (o.state (i + 1)).windowOpen = false
  machine : (o.state (i + 1)).machine = (o.state k).machine

/-- In step `j` the backend was seen to have exited in good order, and the machine has not moved
since. -/
structure LeftInOrder (j k : Nat) : Prop where
  before : j < k
  held : (o.state j).backend.isSome = true
  seen : ∃ r, (o.state j).noticed? = some r ∧ r.isSuccess = true
  given : (o.state (j + 1)).backend = none
  machine : (o.state (j + 1)).machine = (o.state k).machine

/-- A session that is ready, with nothing to show: its window was refused and then its backend
left. -/
structure LeftWaiting (k : Nat) : Prop where
  ready : (o.state k).machine.state = .ready
  gone : (o.state k).backend = none
  closed : (o.state k).windowOpen = false
  story : ∃ i j, i < j ∧ o.Refused i k ∧ o.LeftInOrder j k

/-- What is so of a session at rest that ends with its last window. -/
structure Rested (k : Nat) : Prop where
  running : (o.state k).machine.state = .running → (o.state k).windowOpen = true
  ready : (o.state k).machine.state = .ready → ∃ i, o.Refused i k ∧
    ((o.state k).backend = none → ∃ j, i < j ∧ o.LeftInOrder j k)

variable {o} {i j k : Nat}

theorem Refused.mono (h : o.Refused i k) (hm : (o.state (k + 1)).machine = (o.state k).machine) :
    o.Refused i (k + 1) :=
  ⟨Nat.lt_succ_of_lt h.before, h.asked, h.closed, h.machine.trans hm.symm⟩

theorem LeftInOrder.mono (h : o.LeftInOrder j k)
    (hm : (o.state (k + 1)).machine = (o.state k).machine) : o.LeftInOrder j (k + 1) :=
  ⟨Nat.lt_succ_of_lt h.before, h.held, h.seen, h.given, h.machine.trans hm.symm⟩

theorem Rested.stays (h : o.Rested k) (hm : (o.state (k + 1)).machine = (o.state k).machine)
    (hb : (o.state (k + 1)).backend = (o.state k).backend)
    (hw : (o.state (k + 1)).window = (o.state k).window) : o.Rested (k + 1) := by
  refine ⟨fun hr => ?_, fun hr => ?_⟩
  · rw [hm] at hr
    exact (congrArg WindowHost.isOpen hw).trans (h.running hr)
  · rw [hm] at hr
    obtain ⟨i, hi, hleft⟩ := h.ready hr
    refine ⟨i, hi.mono hm, fun hnone => ?_⟩
    obtain ⟨j, hij, hj⟩ := hleft (hb.symm.trans hnone)
    exact ⟨j, hij, hj.mono hm⟩

theorem Rested.loses (h : o.Rested k) (hm : (o.state (k + 1)).machine = (o.state k).machine)
    (hw : (o.state (k + 1)).window = (o.state k).window)
    (held : (o.state k).backend.isSome = true)
    (seen : ∃ r, (o.state k).noticed? = some r ∧ r.isSuccess = true)
    (given : (o.state (k + 1)).backend = none) : o.Rested (k + 1) := by
  refine ⟨fun hr => ?_, fun hr => ?_⟩
  · rw [hm] at hr
    exact (congrArg WindowHost.isOpen hw).trans (h.running hr)
  · rw [hm] at hr
    obtain ⟨i, hi, -⟩ := h.ready hr
    exact ⟨i, hi.mono hm, fun _ => ⟨k, hi.before, Nat.lt_succ_self k, held, seen, given, rfl⟩⟩

/-- Where the window is asked for, it comes and the session is running, or it is refused. -/
theorem rested_asks {b : Handle} {s₁ : Session} (gate : Gate (o.state k) b s₁)
    (eq : o.state (k + 1) = s₁.openWindow.inPhase .hosting)
    (h : (o.state k).phase = .reviving → o.Rested k) : o.Rested (k + 1) := by
  obtain ⟨after, before, hnews, -⟩ := asksAs_of_gate gate eq
  have hasked : ∃ url, .openWindow url ∈ o.news k :=
    ⟨s₁.targetUrl, by rw [hnews]; exact List.mem_append_right _ List.mem_cons_self⟩
  obtain ⟨-, -, -, ⟨-, hopen, hm⟩ | ⟨-, hclosed, hm⟩⟩ := s₁.account_asks gate.closed gate.upright
  · have hstate : (o.state (k + 1)).machine.state = .running := by
      rw [eq]
      exact congrArg Machine.state hm
    refine ⟨fun _ => ?_, fun hr => ?_⟩
    · rw [eq]
      exact hopen
    · rw [hstate] at hr
      cases hr
  · have hmachine : (o.state (k + 1)).machine = s₁.machine := by
      rw [eq]
      exact hm
    have hshut : (o.state (k + 1)).windowOpen = false := by
      rw [eq]
      exact hclosed
    have hheld : (o.state (k + 1)).backend = some b := by
      obtain ⟨-, -, -, hb, -⟩ := s₁.account_openWindow gate.closed gate.upright
      rw [eq]
      exact hb.trans gate.holds
    refine ⟨fun hr => ?_, fun _ => ?_⟩
    · -- a session that is asked to show its window again was running with its window open
      rw [hmachine] at hr
      obtain ⟨hp, rfl⟩ | ⟨-, -, -, -, hready, -⟩ := gate.way
      · have := (h hp).running hr
        rw [show (o.state k).windowOpen = false from gate.closed] at this
        cases this
      · rw [hready] at hr
        cases hr
    · refine ⟨k, ⟨Nat.lt_succ_self k, hasked, hshut, rfl⟩, fun hnone => ?_⟩
      rw [hheld] at hnone
      cases hnone

theorem rested (hq : o.config.quitOnLastWindowClosed = true) (k : Nat) :
    (o.state k).phase = .hosting ∨ (o.state k).phase = .reviving → o.Rested k := by
  induction k with
  | zero =>
    obtain ⟨url, hz⟩ := o.state_zero
    rw [hz]
    rintro (h | h) <;> cases h
  | succ k ih =>
    intro hp
    cases hs : (o.state k).step with
    | none =>
      have he := o.state_succ_of_stuck hs
      rw [he] at hp
      exact (ih hp).stays (by rw [he]) (by rw [he]) (by rw [he])
    | some s' =>
      have he := o.state_succ_of_step hs
      unfold step at hs
      split at hs
      · next s₁ hr =>
        cases hs
        rw [← he] at hr
        cases comesToRest (by rw [o.config_eq]; exact hq) (o.sound k) hr hp with
        | asks b s₁ gate eq => exact rested_asks gate eq fun hp => ih (.inr hp)
        | fails state =>
          refine ⟨fun hr => ?_, fun hr => ?_⟩ <;> rw [state] at hr <;> cases hr
        | loses b r phase held seen clean given machine window =>
          exact (ih (.inl phase)).loses machine window (by rw [held]; rfl) ⟨r, seen, clean⟩ given
        | stays phase backend machine window =>
          exact (ih (.inl phase)).stays machine backend window
      · unfold wait at hs
        split at hs
        · cases hs
        · obtain ⟨t, -, rfl⟩ := Option.map_eq_some_iff.1 hs
          rw [he] at hp
          exact (ih hp).stays (by rw [he]; rfl) (by rw [he]; rfl) (by rw [he]; rfl)

/-- Wherever a session that ends with its last window waits for something to happen, it holds a
backend or its window is open; but for one case, in which it has been ready since its window was
refused, its backend has left in good order, and only another activation will go on. -/
theorem nothing_left_but_hope (hq : o.config.quitOnLastWindowClosed = true) (k : Nat)
    (hp : (o.state k).phase = .hosting) (hn : (o.state k).nothingLeft = false) :
    (o.state k).backend.isSome = true ∨ (o.state k).windowOpen = true ∨ o.LeftWaiting k := by
  cases hb : (o.state k).backend with
  | some b => exact .inl rfl
  | none =>
    cases hw : (o.state k).windowOpen with
    | true => exact .inr (.inl rfl)
    | false =>
      refine .inr (.inr ?_)
      have hrested := o.rested hq k (.inl hp)
      rcases ((Sound.hosting hp).1 (o.sound k)).state with hs | hs | hs
      · obtain ⟨i, hi, hleft⟩ := hrested.ready hs
        obtain ⟨j, hij, hj⟩ := hleft hb
        exact ⟨hs, hb, hw, i, j, hij, hi, hj⟩
      · have := hrested.running hs
        rw [hw] at this
        cases this
      · simp [nothingLeft, o.config_eq, hq, hs, hb, hw] at hn

/-- One child, which leaves in good order after 100 ms; it is healthy at once, and the window is
refused. -/
def forsakenWorld : World :=
  { World.empty with
    files := ⟨[([[98]], .file true)]⟩
    childScripts := [{ ChildScript.inert with exit := some (100, some 0) }]
    health := [.after 0 (.ok ())]
    surface := [.fails .unavailable] }

def forsakenRun : Opening where
  config := .forMode .production
  program := [47, 98]
  world := forsakenWorld
  session := {
    config := .forMode .production
    launch := .forExecutable [47, 98] (Config.forMode .production).backendEnv
    targetUrl := "http://localhost:8400/"
    world := forsakenWorld
    machine := .new
    backend := none
    window := .new
    shutdown := .new (Config.forMode .production).shutdownGrace
    errorsReported := 0
    phase := .launching }
  opened := by rfl
  childless := rfl
  blank := rfl

/-- It waits for an activation that never comes, with nothing left to host. -/
theorem forsaken_idles : ∃ k, forsakenRun.config.quitOnLastWindowClosed = true ∧
    (forsakenRun.state k).phase = .hosting ∧ (forsakenRun.state k).nothingLeft = false ∧
    (forsakenRun.state k).backend = none ∧ (forsakenRun.state k).windowOpen = false ∧
    (forsakenRun.state k).step = none :=
  ⟨5, rfl, rfl, rfl, rfl, rfl, rfl⟩

/-- There the window was refused, and then the backend left in good order. -/
theorem forsaken_left_waiting : forsakenRun.LeftWaiting 5 := by
  have h := forsakenRun.nothing_left_but_hope rfl 5 rfl rfl
  rw [show (forsakenRun.state 5).backend = none from rfl,
    show (forsakenRun.state 5).windowOpen = false from rfl] at h
  exact (h.resolve_left Bool.false_ne_true).resolve_left Bool.false_ne_true

end Opening
end DesktopHost
