import DesktopHost.Proofs.Opening

/-!
Where a run stands between two steps, and the course that its machine takes in every cycle.
-/

set_option autoImplicit false

namespace DesktopHost

/-- A lawful course of cycle `n`: its transitions, newest first, and where they have led. -/
inductive Course (n : Nat) : List Event → LifecycleState → Prop where
  | begun : Course n [] .starting
  | next {r : List Event} {a b : LifecycleState} :
    Course n r a → a.leadsTo b = true → Course n (.note (.transition a b n) :: r) b

def transitions (n : Nat) (acts : List Event) : List Event :=
  (during n acts).filter Event.isTransition

namespace Course

variable {n : Nat} {r : List Event} {st : LifecycleState}

theorem failed_of_mem (h : Course n r st) {a : LifecycleState} {m : Nat}
    (hm : .note (.transition a .failed m) ∈ r) : st = .failed := by
  induction h with
  | begun => cases hm
  | @next r c d _ hl ih =>
    rcases List.mem_cons.1 hm with he | hm
    · cases he
      rfl
    · rw [ih hm] at hl
      cases d <;> cases hl

theorem exists_failed (h : Course n r .failed) : ∃ a, .note (.transition a .failed n) ∈ r := by
  cases h with
  | next => exact ⟨_, List.mem_cons_self⟩

theorem over_of_mem (h : Course n r st) {a : LifecycleState} {m : Nat}
    (hm : .note (.transition a .shuttingDown m) ∈ r) : st = .shuttingDown ∨ st = .terminated := by
  induction h with
  | begun => cases hm
  | @next r c d _ hl ih =>
    rcases List.mem_cons.1 hm with he | hm
    · cases he
      exact .inl rfl
    · rcases ih hm with hc | hc <;> rw [hc] at hl <;> cases d <;> cases hl
      exact .inr rfl

end Course

theorem transitions_cons_of_begin (n k : Nat) (r : List Event) :
    transitions n (.note (.cycleBegun k) :: r) =
      if begun r + 1 = n then [] else transitions n r := by
  rw [transitions, during_begin]
  split <;> rfl

theorem transitions_cons_of_transition (n k : Nat) (a b : LifecycleState) (r : List Event) :
    transitions n (.note (.transition a b k) :: r) =
      if begun r = n then .note (.transition a b k) :: transitions n r else transitions n r := by
  rw [transitions, during, begun_cons_quiet rfl]
  split <;> rfl

theorem transitions_cons_of_quiet {e : Event} (hb : e.isBegin = false)
    (ht : e.isTransition = false) (n : Nat) (r : List Event) :
    transitions n (e :: r) = transitions n r := by
  rw [transitions, during, begun_cons_quiet hb]
  split
  · rw [List.filter_cons_of_neg (by rw [ht]; exact Bool.false_ne_true)]
    rfl
  · rfl

/-- What can be replayed shows a lawful course in every cycle, and none before the first; the
latest course has led to where the machine is. -/
theorem course_of_replay {r : List Event} {m : Machine} (h : Machine.new.replay r = some m) :
    (∀ n, 1 ≤ n → n ≤ begun r →
      ∃ st, Course n (transitions n r) st ∧ (n = begun r → st = m.state)) ∧
    transitions 0 r = [] ∧ (begun r = 0 → m.state = .idle) := by
  induction r generalizing m with
  | nil =>
    cases h
    exact ⟨fun n h1 hn => absurd hn (by rw [begun_nil]; omega), rfl, fun _ => rfl⟩
  | cons e r ih =>
    obtain ⟨m₁, h₁, h₂⟩ := Option.bind_eq_some_iff.1 h
    obtain ⟨hc, h0, hidle⟩ := ih h₁
    have hcycle : m₁.cycle = begun r := by
      rw [Machine.cycle_of_replay h₁]
      exact Nat.zero_add _
    rcases e.cases_act with ⟨k, rfl⟩ | ⟨a, b, k, rfl⟩ | ⟨hb, ht⟩
    · obtain ⟨rfl, rfl⟩ := Machine.follow_begin_eq_some h₂
      rw [begun_cons_begin]
      refine ⟨fun n h1 hn => ?_, ?_, fun h => absurd h (Nat.succ_ne_zero _)⟩
      · rw [transitions_cons_of_begin]
        by_cases hlast : begun r + 1 = n
        · rw [if_pos hlast]
          exact ⟨.starting, .begun, fun _ => rfl⟩
        · rw [if_neg hlast]
          obtain ⟨st, hst, -⟩ := hc n h1 (by omega)
          exact ⟨st, hst, fun h => absurd h.symm hlast⟩
      · rw [transitions_cons_of_begin, if_neg (Nat.succ_ne_zero _), h0]
    · obtain ⟨rfl, hl, rfl⟩ := Machine.follow_transition_eq_some h₂
      have hcycle : k = begun r := hcycle
      have hpos : begun r ≠ 0 := by
        -- from `idle` no transition starts
        intro hz
        have ha : a = .idle := hidle hz
        rw [ha] at hl
        cases b <;> cases hl
      rw [begun_cons_quiet rfl]
      refine ⟨fun n h1 hn => ?_, ?_, fun h => absurd h hpos⟩
      · obtain ⟨st, hst, hlast⟩ := hc n h1 hn
        rw [transitions_cons_of_transition]
        by_cases hn' : begun r = n
        · have ha : st = a := hlast hn'.symm
          have hkn : k = n := hcycle.trans hn'
          rw [if_pos hn', hkn]
          rw [ha] at hst
          exact ⟨b, hst.next hl, fun _ => rfl⟩
        · rw [if_neg hn']
          exact ⟨st, hst, fun h => absurd h.symm hn'⟩
      · rw [transitions_cons_of_transition, if_neg hpos, h0]
    · obtain ⟨rfl, -⟩ := Machine.follow_eq_some hb ht h₂
      rw [begun_cons_quiet hb]
      refine ⟨fun n h1 hn => ?_, ?_, hidle⟩
      · rw [transitions_cons_of_quiet hb ht]
        exact hc n h1 hn
      · rw [transitions_cons_of_quiet hb ht]
        exact h0

namespace Session

variable {s s' : Session} {es : List Event}

/-- A cycle begins without a window, and its beginning asks for none. -/
theorem Turn.closed_of_begin (h : Turn s es s') {n : Nat} (hn : .note (.cycleBegun n) ∈ es) :
    s.windowOpen = false ∧ s'.windowOpen = false ∧ ∀ url, .openWindow url ∉ es := by
  cases h with
  | goesOn _ _ _ quiet => cases (quiet _ hn).2.2
  | stops _ _ _ quiet => cases (quiet _ hn).2.2
  | notices b r _ _ _ _ acts =>
    obtain ⟨rest, hq, rfl⟩ := acts
    rcases List.mem_append.1 hn with hn | hn
    · cases (mem_crashActs hn).1
    · cases (hq _ hn).2.2
  | launchFails _ closed fails =>
    obtain ⟨d, call, rfl, -, hcall⟩ := fails.acts
    refine ⟨closed, (congrArg WindowHost.isOpen fails.window).trans closed, fun url => ?_⟩
    obtain ⟨rfl, -⟩ | ⟨l, rfl, -⟩ := hcall <;> simp
  | launches b _ closed launches =>
    obtain ⟨l, rfl⟩ := launches.acts
    exact ⟨closed, (congrArg WindowHost.isOpen launches.window).trans closed, fun url => by simp⟩

theorem AtRest.of_open (h : s.AtRest) (ho : s.windowOpen = true) :
    s.machine.state = .running ∨ s.machine.state = .failed := by
  refine h.state.resolve_left fun hr => ?_
  rw [h.ready hr] at ho
  cases ho

theorem Sound.closed_of_startup (h : Sound s)
    (hs : s.machine.state = .starting ∨ s.machine.state = .probing) : s.windowOpen = false := by
  unfold Sound at h
  split at h
  · exact h.2.2.1
  · exact h.closed
  · rcases h.state with hr | hr | hr <;> rw [hr] at hs <;> rcases hs with hs | hs <;> cases hs
  · exact h.2.1
  · have ht := h.1
    rcases hs with hs | hs <;> rw [hs] at ht <;> cases ht

end Session

namespace Opening

open Session

variable (o : Opening)

theorem mem_story {k t : Nat} {e : Event} (ha : e.isAct = true)
    (h : (t, e) ∈ (o.state k).world.trace) : e ∈ o.story k :=
  mem_actsOf.2 ⟨ha, t, h⟩

theorem no_slip {k t : Nat} {e : Event} (ha : e.isAct = true)
    (h : (t, e) ∈ (o.state k).world.trace) : e.isSlip = false :=
  Machine.isSlip_of_replay (o.replay k) e (o.mem_story ha h)

/-- No step of the machine is ever refused. In every cycle its transitions take a lawful course,
the last of which leads to its present state, and the report counts the cycles. A run that is
over has terminated or failed, and failed exactly if its last cycle did, without a shutdown. -/
theorem machine_obeyed (k : Nat) :
    (∀ t r a, (t, .note (.transitionRejected r a)) ∉ (o.state k).world.trace ∧
      (t, .note (.cannotBegin r a)) ∉ (o.state k).world.trace) ∧
    (∀ n, 1 ≤ n → n ≤ (o.state k).machine.cycle →
      ∃ st, Course n (transitions n (o.story k)) st ∧
        (n = (o.state k).machine.cycle → st = (o.state k).machine.state)) ∧
    transitions 0 (o.story k) = [] ∧
    (o.state k).report.cycles = begun (o.story k) ∧
    ∀ t, (o.state k).phase = .finished t →
      ((o.state k).report.finalState = .terminated ∨ (o.state k).report.finalState = .failed) ∧
      ((o.state k).report.finalState = .failed ↔ ∃ a, .note (.transition a .failed
        (o.state k).report.cycles) ∈ transitions (o.state k).report.cycles (o.story k)) ∧
      ((o.state k).report.finalState = .failed → ∀ a n, .note (.transition a .shuttingDown n) ∉
        transitions (o.state k).report.cycles (o.story k)) := by
  obtain ⟨hc, h0, hidle⟩ := course_of_replay (o.replay k)
  rw [o.begun_story k] at hc hidle
  refine ⟨fun t r a => ⟨fun h => ?_, fun h => ?_⟩, hc, h0, (o.begun_story k).symm, fun t ht => ?_⟩
  · cases o.no_slip rfl h
  · cases o.no_slip rfl h
  · have hend := ((Sound.finished ht).1 (o.sound k)).1
    have h1 : 1 ≤ (o.state k).machine.cycle := by
      by_contra hz
      rw [hidle (by omega)] at hend
      cases hend
    obtain ⟨st, hst, hlast⟩ := hc _ h1 (Nat.le_refl _)
    rw [hlast rfl] at hst
    refine ⟨?_, ⟨fun hf => ?_, fun ⟨a, ha⟩ => hst.failed_of_mem ha⟩, fun hf a n ha => ?_⟩
    · change (o.state k).machine.state = _ ∨ (o.state k).machine.state = _
      revert hend
      cases (o.state k).machine.state <;> simp [LifecycleState.isTerminal]
    · have hf : (o.state k).machine.state = .failed := hf
      rw [hf] at hst
      exact hst.exists_failed
    · have hf : (o.state k).machine.state = .failed := hf
      rcases hst.over_of_mem ha with h | h <;> rw [hf] at h <;> cases h

/-- What can be relied on whenever the main loop is entered, and that no window is open during
startup. So an exit that was asked for is never noticed, and no shutdown is ever skipped. -/
theorem standing (k : Nat) :
    ((o.state k).phase = .hosting →
      ((o.state k).machine.state = .ready ∨ (o.state k).machine.state = .running ∨
        (o.state k).machine.state = .failed) ∧
      1 ≤ (o.state k).machine.cycle ∧
      ((o.state k).machine.state = .failed → (o.state k).backend = none) ∧
      ((o.state k).machine.state = .ready → (o.state k).windowOpen = false) ∧
      ((o.state k).windowOpen = true →
        (o.state k).machine.state = .running ∨ (o.state k).machine.state = .failed) ∧
      (∀ b, (o.state k).backend = some b → b.terminationRequested = false) ∧
      (o.state k).shutdown.stopped = false) ∧
    ((o.state k).machine.state = .starting ∨ (o.state k).machine.state = .probing →
      (o.state k).windowOpen = false) ∧
    (∀ n, .note (.cycleBegun n) ∈ o.news k → (o.state k).windowOpen = false ∧
      (o.state (k + 1)).windowOpen = false ∧ ∀ url, .openWindow url ∉ o.news k) ∧
    ∀ t pid, (t, .note (.shutdownSkipped pid)) ∉ (o.state k).world.trace ∧
      (t, .note (.shutdownFinished .skipped)) ∉ (o.state k).world.trace ∧
      ∀ r, (t, .note (.exitedAfterRequest pid r)) ∉ (o.state k).world.trace := by
  refine ⟨fun hp => ?_, (o.sound k).closed_of_startup,
    fun n hn => (o.stepped k).turn.closed_of_begin hn,
    fun t pid => ⟨fun h => ?_, fun h => ?_, fun r h => ?_⟩⟩
  · have h := (Sound.hosting hp).1 (o.sound k)
    exact ⟨h.state, h.begun, h.failed, h.ready, h.of_open, h.unasked, h.unstopped⟩
  · cases o.no_slip rfl h
  · cases o.no_slip rfl h
  · cases o.no_slip rfl h

end Opening
end DesktopHost
