import DesktopHost.Proofs.Dialogs
import DesktopHost.Proofs.Quitting

/-!
When the window is asked for: only for a live backend that has been found ready in the present
cycle, and only where no window is open.
-/

set_option autoImplicit false

namespace DesktopHost

namespace Session

variable (s : Session)

@[simp] theorem moveTo_window (t : LifecycleState) : (s.moveTo t).window = s.window := by
  unfold moveTo
  split <;> rfl

theorem quit_window : s.quit.window = s.window := by
  have hbegin (s : Session) : s.beginShutdown.window = s.window := by
    unfold beginShutdown
    split
    · rfl
    · exact s.moveTo_window _
  have hstop (s : Session) : s.stopBackend.window = s.window := by
    unfold stopBackend
    split <;> rfl
  have hend (s : Session) : s.endShutdown.window = s.window := by
    unfold endShutdown
    split
    · exact s.moveTo_window _
    · rfl
  change ((s.note _).beginShutdown.stopBackend.endShutdown).window = _
  rw [hend, hstop, hbegin]
  rfl

end Session

namespace Opening

open Session

variable (o : Opening)

/-- In step `k` the session comes to the point, as `s`, where it asks for its window. The acts of
the step until then are `before`. -/
structure AsksAs (k : Nat) (before : List Event) (s : Session) (b : Handle) : Prop where
  next : o.state (k + 1) = s.openWindow.inPhase .hosting
  acts : s.world.acts = before ++ o.story k
  now : s.world.now = (o.state k).world.now
  children : s.world.children = (o.state k).world.children
  upright : s.machine.state = .ready ∨ s.machine.state = .running
  resolved : ∃ signal elapsed,
    .note (.readinessResolved signal elapsed) ∈ during s.machine.cycle s.world.acts
  held : s.backend = some b ∧ (o.state k).backend = some b
  spawned : ∃ l, .spawn b.child l ∈ during s.machine.cycle s.world.acts
  alive : b.exitReport s.world = none
  closed : s.windowOpen = false
  target : ∃ u, o.config.targetUrl = .ok u ∧ s.targetUrl = u.text

theorem target_eq (k : Nat) :
    ∃ u, o.config.targetUrl = .ok u ∧ (o.state k).targetUrl = u.text := by
  have h := o.opened
  unfold Session.new at h
  simp only [bind, Except.bind] at h
  split at h
  · cases h
  · split at h
    · cases h
    · next u hu =>
      refine ⟨u, hu, ?_⟩
      rw [(o.account k).target, state, Function.iterate_zero, id, ← Except.ok.inj h]
      rfl

/-- A backend that is held outside startup has been found ready in the present cycle. -/
theorem resolved_of_held (k : Nat) :
    (o.state k).phase = .hosting ∨ (o.state k).phase = .reviving →
      (o.state k).backend.isSome = true → ∃ signal elapsed,
        .note (.readinessResolved signal elapsed) ∈
          during (o.state k).machine.cycle (o.story k) := by
  induction k with
  | zero =>
    obtain ⟨url, h⟩ := o.state_zero
    rw [h]
    rintro (hp | hp) <;> cases hp
  | succ k ih =>
    intro hp hsome
    -- what the present cycle has recorded stays with it
    have hkeep (hc : (o.state (k + 1)).machine.cycle = (o.state k).machine.cycle) :
        during (o.state (k + 1)).machine.cycle (o.story (k + 1)) =
          o.news k ++ during (o.state k).machine.cycle (o.story k) := by
      obtain ⟨-, -, hd⟩ | ⟨hc', -⟩ := o.during_succ k (o.state (k + 1)).machine.cycle
      · rw [hd, hc, if_pos rfl]
      · omega
    cases o.move k with
    | quits s₁ _ _ eq =>
      rw [eq] at hp
      rcases hp with hp | hp <;> cases hp
    | waits t _ _ _ eq =>
      have hc : (o.state (k + 1)).machine.cycle = (o.state k).machine.cycle := by rw [eq]; rfl
      rw [eq] at hp hsome
      obtain ⟨signal, elapsed, hm⟩ := ih hp hsome
      exact ⟨signal, elapsed, by rw [hkeep hc]; exact List.mem_append_right _ hm⟩
    | other _ _ _ _ _ kept =>
      obtain ⟨hp', hb, hc⟩ := kept hp hsome
      obtain ⟨signal, elapsed, hm⟩ := ih (.inl hp') (by rw [← hb]; exact hsome)
      exact ⟨signal, elapsed, by rw [hkeep hc]; exact List.mem_append_right _ hm⟩
    | opens b s₁ _ gate eq =>
      obtain ⟨after, before, hnews, -, -, -, hway⟩ := gate.asks (o.stepped k).account eq
      have hc : (o.state (k + 1)).machine.cycle = (o.state k).machine.cycle := by
        obtain ⟨-, -, -, -, -, hc, -⟩ := s₁.account_openWindow gate.closed gate.upright
        rw [eq]
        exact hc.trans gate.cycle
      rw [hkeep hc]
      rcases hway with hp' | ⟨signal, elapsed, hm⟩
      · obtain ⟨signal, elapsed, hm⟩ := ih (.inr hp') (by rw [gate.held]; rfl)
        exact ⟨signal, elapsed, List.mem_append_right _ hm⟩
      · refine ⟨signal, elapsed, List.mem_append_left _ ?_⟩
        rw [hnews]
        exact List.mem_append_right _ (List.mem_cons_of_mem _ hm)

variable {o} {k : Nat}

theorem gate_of_news {url : String} (h : .openWindow url ∈ o.news k) :
    ∃ b s₁, Gate (o.state k) b s₁ ∧ o.state (k + 1) = s₁.openWindow.inPhase .hosting := by
  cases o.move k with
  | opens b s₁ _ gate eq => exact ⟨b, s₁, gate, eq⟩
  | waits _ _ _ mild => cases mild _ h
  | other _ mild => cases mild _ h
  | quits _ starts => cases ending_of_startsQuitting starts h rfl

theorem asksAs_of_gate {b : Handle} {s₁ : Session} (gate : Gate (o.state k) b s₁)
    (eq : o.state (k + 1) = s₁.openWindow.inPhase .hosting) :
    ∃ after before, o.news k = after ++ .openWindow s₁.targetUrl :: before ∧ Mild after ∧
      Mild before ∧ o.AsksAs k before s₁ b := by
  obtain ⟨after, before, hnews, hafter, hbefore, hacc, hway⟩ :=
    gate.asks (o.stepped k).account eq
  have hacts : s₁.world.acts = before ++ o.story k := hacc.world.acts
  have hquiet : ∀ e ∈ before, e.isBegin = false := by
    have hcycle := Machine.cycle_of_replay hacc.machine
    rw [gate.cycle] at hcycle
    have hzero : begun before = 0 := by omega
    exact fun e he => Bool.eq_false_iff.2 (List.countP_eq_zero.1 hzero e he)
  have hduring : during s₁.machine.cycle s₁.world.acts =
      before ++ during (o.state k).machine.cycle (o.story k) := by
    rw [gate.cycle, hacts, during_append hquiet, o.begun_story, if_pos rfl]
  obtain ⟨⟨l, hl⟩, -⟩ := o.held_in_cycle k b gate.held
  refine ⟨after, before, ?_, hafter, hbefore, eq, hacts, gate.atOnce.now, gate.children,
    gate.upright, ?_,
    ⟨gate.holds, gate.held⟩, ⟨l, ?_⟩, gate.alive, gate.closed, ?_⟩
  · rw [hnews, hacc.target]
  · rw [hduring]
    rcases hway with hp | ⟨signal, elapsed, hm⟩
    · obtain ⟨signal, elapsed, hm⟩ := o.resolved_of_held k (.inr hp) (by rw [gate.held]; rfl)
      exact ⟨signal, elapsed, List.mem_append_right _ hm⟩
    · exact ⟨signal, elapsed, List.mem_append_left _ hm⟩
  · rw [hduring]
    exact List.mem_append_right _ hl
  · rw [hacc.target]
    exact o.target_eq k

/-- A window that was open before a step and is not afterwards was reported closed. -/
theorem closesWindow_of_closed (ho : (o.state k).windowOpen = true)
    (hc : (o.state (k + 1)).windowOpen = false) : (o.state k).ClosesWindow := by
  have hne {s : Session} (hw : s.window = (o.state k).window) : s.windowOpen = true :=
    (congrArg WindowHost.isOpen hw).trans ho
  cases o.move k with
  | waits t _ _ _ eq =>
    rw [eq, hne (s := (o.state k).inWorld ((o.state k).world.advanceTo t)) rfl] at hc
    cases hc
  | other _ _ _ _ window =>
    refine window.resolve_left fun hw => ?_
    rw [hne hw] at hc
    cases hc
  | quits s₁ _ about eq =>
    refine about.window.resolve_left fun hw => ?_
    rw [eq, hne (s₁.quit_window.trans hw)] at hc
    cases hc
  | opens b s₁ _ gate eq =>
    have hclosed := gate.closed
    rw [hne gate.window] at hclosed
    cases hclosed

theorem exists_closesWindow {i j : Nat} (hij : i ≤ j) (ho : (o.state i).windowOpen = true)
    (hc : (o.state j).windowOpen = false) : ∃ m, i ≤ m ∧ m < j ∧ (o.state m).ClosesWindow := by
  induction j, hij using Nat.le_induction with
  | base =>
    rw [ho] at hc
    cases hc
  | succ j hij ih =>
    cases hj : (o.state j).windowOpen with
    | true => exact ⟨j, hij, Nat.lt_succ_self j, closesWindow_of_closed hj hc⟩
    | false =>
      obtain ⟨m, hm, hlt, hclose⟩ := ih hj
      exact ⟨m, hm, Nat.lt_succ_of_lt hlt, hclose⟩

variable (o)

/-- The window is only ever asked for, once a step, on the address of the configuration, by a
session that is ready or running, holds the live backend that was found ready in this cycle, and
has no window open. If it does not come, nothing has changed; and if it comes, another one is
asked for only after its end was handled outside startup. -/
theorem windows_gated :
    (∀ k url, .openWindow url ∈ o.news k → ∃ after before s b,
      o.news k = after ++ .openWindow url :: before ∧
      (∀ url', .openWindow url' ∉ after ∧ .openWindow url' ∉ before) ∧
      s.targetUrl = url ∧ o.AsksAs k before s b ∧
      ((s.world.openWindow url).2.isOk = true ∧ (o.state (k + 1)).windowOpen = true ∨
        (s.world.openWindow url).2.isOk = false ∧ (o.state (k + 1)).windowOpen = false ∧
          (o.state (k + 1)).machine = s.machine)) ∧
    ∀ i j url url', .openWindow url ∈ o.news i → (o.state (i + 1)).windowOpen = true →
      .openWindow url' ∈ o.news j → i < j →
      ∃ m, i < m ∧ m < j ∧ (o.state m).ClosesWindow := by
  refine ⟨fun k url h => ?_, fun i j url url' _ ho hj hij => ?_⟩
  · obtain ⟨b, s, gate, eq⟩ := gate_of_news h
    obtain ⟨after, before, hnews, hafter, hbefore, hasks⟩ := asksAs_of_gate gate eq
    have hurl : s.targetUrl = url := by
      rw [hnews, List.mem_append, List.mem_cons] at h
      rcases h with h | h | h
      · cases hafter _ h
      · exact (Event.openWindow.inj h).symm
      · cases hbefore _ h
    rw [hurl] at hnews
    refine ⟨after, before, s, b, hnews, fun url' => ⟨fun h => ?_, fun h => ?_⟩, hurl, hasks, ?_⟩
    · cases hafter _ h
    · cases hbefore _ h
    · obtain ⟨-, -, -, ⟨hok, hopen, -⟩ | ⟨hfails, hclosed, hm⟩⟩ :=
        s.account_asks gate.closed gate.upright
      · rw [hurl] at hok
        exact .inl ⟨hok, by rw [eq]; exact hopen⟩
      · rw [hurl] at hfails
        exact .inr ⟨hfails, by rw [eq]; exact hclosed, by rw [eq]; exact hm⟩
  · obtain ⟨b, s, gate, -⟩ := gate_of_news hj
    have hclosed : (o.state j).windowOpen = false :=
      (congrArg WindowHost.isOpen gate.window).symm.trans gate.closed
    exact exists_closesWindow hij ho hclosed

end Opening
end DesktopHost
