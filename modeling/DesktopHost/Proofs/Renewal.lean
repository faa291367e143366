import DesktopHost.Proofs.InStep

/-!
A session with a past beside one without, in worlds that agree but for that past: what one does,
the other does too, step by step and for the whole rest of the run.
-/

set_option autoImplicit false

namespace DesktopHost

namespace Session

/-- Wherever they stand, `s` is `r` after the past `p`. -/
structure Beside (p : Past) (s r : Session) : Prop where
  config : s.config = r.config
  launch : s.launch = r.launch
  targetUrl : s.targetUrl = r.targetUrl
  world : s.world.Follows p r.world
  machine : s.machine = r.machine.after p
  backend : s.backend = r.backend.map (Handle.after p)
  window : s.window = r.window
  shutdown : s.shutdown = r.shutdown
  errors : s.errorsReported = r.errorsReported + p.errors

/-- The session `s` is `r` after the past `p`. -/
structure Follows (p : Past) (s r : Session) : Prop extends Beside p s r where
  phase : s.phase = r.phase.after p

variable {p : Past} {s r : Session}

theorem Beside.abreast (h : Beside p s r) :
    Abreast p r.config.readiness.markers (World.Follows p) s r :=
  { h with markers := rfl }

theorem Abreast.beside {markers : List String} (h : Abreast p markers (World.Follows p) s r) :
    Beside p s r :=
  { h with }

theorem Beside.inWorld (h : Beside p s r) {w v : World} (hw : w.Follows p v) :
    Beside p (s.inWorld w) (r.inWorld v) :=
  { h with world := hw }

theorem Beside.withMachine (h : Beside p s r) (m : Machine) :
    Beside p (s.withMachine (m.after p)) (r.withMachine m) :=
  { h with machine := rfl }

theorem Beside.note (h : Beside p s r) (n : Note) : Beside p (s.note (n.after p)) (r.note n) :=
  h.inWorld (h.world.note n)

theorem Beside.spawnBackend (h : Beside p s r) : Follows p s.spawnBackend r.spawnBackend :=
  have hstep := h.abreast.spawnBackend (World.Follows.mirrors p _)
  { hstep.beside with phase := hstep.phase }

namespace Follows

theorem inStep (h : Follows p s r) :
    InStep p r.config.readiness.markers (fun _ => True) (World.Follows p) s r :=
  { h.abreast with
    phase := h.phase
    heard := fun _ _ => trivial }

/-- What leaves both where they stand. -/
theorem stay (h : Follows p s r) {s' r' : Session} (h' : Beside p s' r') (hs : s'.phase = s.phase)
    (hr : r'.phase = r.phase) : Follows p s' r' :=
  { h' with phase := by rw [hs, hr, h.phase] }

/-- What one does of its own accord, the other does too. -/
theorem react (h : Follows p s r) : Option.Rel (Follows p) s.react r.react := by
  have hreact := h.inStep.react (World.Follows.mirrors p _) fun _ _ _ => World.Follows.stops p
  generalize s.react = x at hreact
  generalize r.react = y at hreact
  cases hreact with
  | none => exact .none
  | some h' => exact .some { h'.beside with phase := h'.phase }

theorem timer? (h : Follows p s r) : s.timer? = r.timer?.map (· + p.time) := h.inStep.timer?

/-- They wake at the same instant, or only children of earlier cycles are concerned for now. -/
theorem wake? (h : Follows p s r) {t : Nat} (ht : s.wake? = some t) :
    (∃ t', r.wake? = some t' ∧ t = t' + p.time) ∨
      (∀ d ∈ r.world.agenda, t < d.time + p.time) ∧ ∀ t', r.timer? = some t' → t < t' + p.time := by
  unfold Session.wake? World.nextDue? at ht ⊢
  rw [h.timer?] at ht
  cases hs : s.world.agenda with
  | nil =>
    rw [hs] at ht
    rw [h.world.agenda_nil hs]
    cases hr : r.timer? with
    | none => rw [hr] at ht; cases ht
    | some a => rw [hr] at ht; exact .inl ⟨a, rfl, (Option.some.inj ht).symm⟩
  | cons d rest =>
    rw [hs] at ht
    simp only [List.head?_cons, Option.map_some] at ht
    obtain ⟨e, more, hv, htime⟩ | hpast := h.world.next hs
    · rw [hv]
      cases hr : r.timer? with
      | none =>
        rw [hr] at ht
        exact .inl ⟨e.time, rfl, (Option.some.inj ht).symm.trans htime⟩
      | some a =>
        rw [hr] at ht
        have ht : min (a + p.time) d.time = t := Option.some.inj ht
        exact .inl ⟨min a e.time, rfl, by omega⟩
    · cases hr : r.timer? with
      | none =>
        rw [hr] at ht
        cases ht
        exact .inr ⟨hpast, fun _ h => absurd h nofun⟩
      | some a =>
        rw [hr] at ht
        have ht : min (a + p.time) d.time = t := Option.some.inj ht
        by_cases hlt : d.time < a + p.time
        · have htd : t = d.time := by omega
          rw [htd]
          refine .inr ⟨hpast, fun t' h => ?_⟩
          cases h
          exact hlt
        · refine .inl ⟨a, ?_, by omega⟩
          cases hv : r.world.agenda with
          | nil => rfl
          | cons e more =>
            have := hpast e (by rw [hv]; exact List.mem_cons_self)
            have hmin : min a e.time = a := by omega
            simp only [List.head?_cons, Option.map_some, hmin]

theorem wake?_eq_none (h : Follows p s r) (hs : s.wake? = none) : r.wake? = none := by
  unfold Session.wake? World.nextDue? at hs ⊢
  rw [h.timer?] at hs
  cases ha : s.world.agenda with
  | cons d rest =>
    rw [ha] at hs
    cases hr : r.timer? <;> rw [hr] at hs <;> cases hs
  | nil =>
    rw [ha] at hs
    rw [h.world.agenda_nil ha]
    cases hr : r.timer? with
    | none => rfl
    | some a => rw [hr] at hs; cases hs

/-- A session is over when the other is. -/
theorem unfinished (h : Follows p s r) :
    (∀ t, s.phase ≠ .finished t) ↔ ∀ t, r.phase ≠ .finished t := by
  simpa [IsOver] using not_congr h.inStep.isOver_iff

end Follows

/-- The session at another time. -/
def atClock (s : Session) (t : Nat) : Session := s.inWorld (s.world.withClock t)

theorem run_of_react (h : s.react = some r) : s.run = r.run := by
  rw [Session.run]
  split <;> simp_all

theorem run_of_wait (hs : s.react = none) (h : s.wait = some r) : s.run = r.run := by
  rw [Session.run]
  split
  · simp_all
  · split <;> simp_all

theorem run_of_stuck (hs : s.react = none) (h : s.wait = none) : s.run = s := by
  rw [Session.run]
  split
  · simp_all
  · split <;> simp_all

theorem receive_withClock {w v : World} {x : World.Received} (h : w.receive = (v, x)) (t : Nat) :
    (w.withClock t).receive = (v.withClock t, x) := by
  unfold World.receive at h ⊢
  rw [show (w.withClock t).queue = w.queue from rfl,
    show (w.withClock t).handleHeld = w.handleHeld from rfl]
  cases hq : w.queue with
  | cons c rest =>
    rw [hq] at h
    cases h
    rfl
  | nil =>
    rw [hq] at h
    dsimp only at h ⊢
    split at h
    · next hh => cases h; rw [if_pos hh]
    · next hh => cases h; rw [if_neg hh]

/-- Who has nothing to do has nothing to do until its next look. -/
theorem react_atClock (hr : r.react = none) {u : Nat} (hu : ∀ t, r.timer? = some t → u < t) :
    (r.atClock u).react = none := by
  have he : r.noticed? = none := noticed?_of_waiting hr
  cases hw : r.world.receive with
  | mk w received =>
    have hw' : (r.atClock u).world.receive = (w.withClock u, received) := receive_withClock hw u
    cases hp : r.phase with
    | launching => unfold Session.react at hr; rw [hp] at hr; cases hr
    | reviving => unfold Session.react at hr; rw [hp] at hr; cases hr
    | finished t => unfold Session.react; rw [show (r.atClock u).phase = .finished t from hp]
    | hosting =>
      have hx : r.backendExit? = none := (noticed?_hosting hp).symm.trans he
      cases hl : r.nothingLeft with
      | true =>
        unfold Session.react Session.host at hr
        rw [hp] at hr
        dsimp only at hr
        rw [hl] at hr
        cases hr
      | false =>
        rw [react_hosting hp hl hx hw] at hr
        rw [react_hosting (s := r.atClock u) hp hl hx hw']
        cases received with
        | nothing => rfl
        | command c => cases hr
        | closed => cases hr
    | probing race =>
      have hx : r.backendExit? = none := (noticed?_probing hp).symm.trans he
      rw [react_probing hp hx hw] at hr
      rw [react_probing (s := r.atClock u) hp hx hw']
      cases received with
      | closed => cases hr
      | command c => cases c <;> cases hr
      | nothing =>
        change r.probeReadiness race = none at hr
        change (r.atClock u).probeReadiness race = none
        cases race with
        | none =>
          change r.backend.map _ = none at hr
          change r.backend.map _ = none
          rw [Option.map_eq_none_iff] at hr ⊢
          exact hr
        | some race =>
          have hdue : u < race.due r.config.readiness := by
            refine hu _ ?_
            unfold Session.timer?
            rw [hp]
          have hblocked : race.step r.config.readiness r.world = .blocked := by
            unfold Session.probeReadiness at hr
            dsimp only at hr
            split at hr
            · assumption
            · cases hr
            · cases hr
          unfold Session.probeReadiness
          dsimp only
          rw [show race.step (r.atClock u).config.readiness (r.atClock u).world = .blocked from
            Race.step_withClock hblocked hdue]

theorem wait_of_unfinished (h : ∀ t, r.phase ≠ .finished t) :
    r.wait = r.wake?.map fun t => r.inWorld (r.world.advanceTo t) := by
  unfold Session.wait
  split
  · next t hp => exact absurd hp (h t)
  · rfl

theorem wait_of_finished {t : Nat} (h : r.phase = .finished t) : r.wait = none := by
  unfold Session.wait
  rw [h]

theorem lt_wake {t u : Nat} (ht : r.wake? = some t) (hd : ∀ d ∈ r.world.agenda.head?, u < d.time)
    (hu : ∀ t, r.timer? = some t → u < t) : u < t := by
  have hnext : ∀ e, r.world.nextDue? = some e → u < e := by
    intro e he
    obtain ⟨d, hmem, rfl⟩ := Option.map_eq_some_iff.1 he
    exact hd d hmem
  unfold Session.wake? at ht
  split at ht
  · next a e ha he =>
    cases ht
    exact Nat.lt_min.2 ⟨hu a ha, hnext e he⟩
  · next ha _ =>
    cases ht
    exact hu t ha
  · exact hnext t ht

/-- To look at the world too early makes no difference, but for the clock of a session to which
nothing will ever happen. -/
theorem run_atClock (hr : r.react = none) {u : Nat} (hmay : r.world.MayLinger u)
    (hu : ∀ t, r.timer? = some t → u < t) : ∃ c, (r.atClock u).run = r.run.atClock c := by
  rcases id hmay with rfl | ⟨-, hd⟩
  · exact ⟨r.run.world.now, rfl⟩
  have hr' := react_atClock hr hu
  by_cases hp : ∃ t, r.phase = .finished t
  · obtain ⟨t, hp⟩ := hp
    exact ⟨u, by rw [run_of_stuck hr (wait_of_finished hp),
      run_of_stuck hr' (wait_of_finished (r := r.atClock u) hp)]⟩
  · have hwait := wait_of_unfinished (r := r) fun t h => hp ⟨t, h⟩
    have hwait' := wait_of_unfinished (r := r.atClock u) fun t h => hp ⟨t, h⟩
    rw [show (r.atClock u).wake? = r.wake? from rfl] at hwait'
    cases ht : r.wake? with
    | none =>
      rw [ht] at hwait hwait'
      exact ⟨u, by rw [run_of_stuck hr hwait, run_of_stuck hr' hwait']⟩
    | some t =>
      rw [ht, Option.map_some] at hwait hwait'
      have hsame : (r.world.withClock u).advanceTo t = r.world.advanceTo t :=
        hmay.advanceTo (Nat.le_of_lt (lt_wake ht hd hu))
      refine ⟨r.run.world.now, ?_⟩
      rw [run_of_wait hr' hwait', show (r.atClock u).world = r.world.withClock u from rfl, hsame]
      exact (run_of_wait hr hwait).symm

/-- The whole rest of a run does not depend on the past. -/
theorem Follows.run (h : Follows p s r) : ∃ c, Follows p s.run (r.run.atClock c) := by
  fun_induction Session.run s generalizing r with
  | case1 s s' hs ih =>
    have hreact := h.react
    rw [hs] at hreact
    generalize hr : r.react = x at hreact
    cases hreact with
    | some h' =>
      obtain ⟨c, hc⟩ := ih h'
      exact ⟨c, by rwa [run_of_react hr]⟩
  | case2 s hs s' hw ih =>
    have hreact := h.react
    rw [hs] at hreact
    generalize hr : r.react = x at hreact
    cases hreact
    have hp : ∀ t, s.phase ≠ .finished t := fun t hp => by
      rw [wait_of_finished hp] at hw
      cases hw
    rw [wait_of_unfinished hp] at hw
    obtain ⟨t, ht, rfl⟩ := Option.map_eq_some_iff.1 hw
    rcases h.wake? ht with ⟨t', ht', rfl⟩ | ⟨hpast, htimer⟩
    · have hwait := wait_of_unfinished (h.unfinished.1 hp)
      rw [ht'] at hwait
      rw [run_of_wait hr hwait]
      exact ih (h.stay (h.inWorld (h.world.advanceTo t')) rfl rfl)
    · -- only children of earlier cycles are concerned, so the other session waits on
      obtain ⟨u, hmay, hu, hworld⟩ := h.world.linger hpast
      obtain ⟨c, hc⟩ := ih (r := r.atClock u) (h.stay (h.inWorld hworld) rfl rfl)
      obtain ⟨c', hc'⟩ := run_atClock hr hmay fun t' ht' => by
        have hlate := htimer t' ht'
        have hnow := now_lt_timer hr ht'
        have := h.world.now
        omega
      rw [hc'] at hc
      exact ⟨c, hc⟩
  | case3 s hs hw =>
    have hreact := h.react
    rw [hs] at hreact
    generalize hr : r.react = x at hreact
    cases hreact
    have hwait : r.wait = none := by
      by_cases hp : ∀ t, s.phase ≠ .finished t
      · rw [wait_of_unfinished hp, Option.map_eq_none_iff] at hw
        rw [wait_of_unfinished (h.unfinished.1 hp), h.wake?_eq_none hw]
        rfl
      · rw [h.unfinished] at hp
        obtain ⟨t, hp⟩ := not_forall.1 hp
        exact wait_of_finished (not_not.1 hp)
    exact ⟨r.world.now, by rw [run_of_stuck hr hwait]; exact h⟩

end Session
end DesktopHost
