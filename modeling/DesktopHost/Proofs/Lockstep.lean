import DesktopHost.Proofs.Renewal

/-!
Two runs side by side. Each of the sessions acts as long as it can, and time passes for both up to
the first instant at which either has something to look at; a look too early does no harm.
-/

set_option autoImplicit false

namespace DesktopHost

/-- The earlier of two instants, if there is one. -/
theorem exists_first (a b : Option Nat) : a = none ∧ b = none ∨
    ∃ t, (a = some t ∨ b = some t) ∧ (∀ u, a = some u → t ≤ u) ∧ ∀ u, b = some u → t ≤ u := by
  cases a with
  | none =>
    cases b with
    | none => exact .inl ⟨rfl, rfl⟩
    | some y => exact .inr ⟨y, .inr rfl, nofun, fun u hu => by cases hu; exact Nat.le_refl _⟩
  | some x =>
    cases b with
    | none => exact .inr ⟨x, .inl rfl, fun u hu => by cases hu; exact Nat.le_refl _, nofun⟩
    | some y =>
      refine .inr ⟨min x y, ?_, fun u hu => ?_, fun u hu => ?_⟩
      · rcases Nat.le_total x y with h | h
        · exact .inl (by rw [Nat.min_eq_left h])
        · exact .inr (by rw [Nat.min_eq_right h])
      · cases hu; exact Nat.min_le_left _ _
      · cases hu; exact Nat.min_le_right _ _

namespace World

variable {W : World → World → Prop} {w v : World}

theorem advanceTo_of_lt_next {t : Nat} (h : ∀ u, w.nextDue? = some u → t < u) :
    w.advanceTo t = w.withClock (max w.now t) ∧ w.MayLinger (max w.now t) := by
  refine ⟨w.advanceTo_of_upTo_nil (w.upTo_of_lt_next h), ?_⟩
  rcases Nat.lt_or_ge w.now t with ht | ht
  · rw [Nat.max_eq_right (Nat.le_of_lt ht)]
    exact .inr ⟨ht, fun d hd => h _ (by rw [nextDue?, Option.mem_def.1 hd]; rfl)⟩
  · rw [Nat.max_eq_left ht]
    exact .inl rfl

theorem agenda_length_advanceTo {t : Nat} (h : w.nextDue? = some t) :
    (w.advanceTo t).agenda.length < w.agenda.length := by
  obtain ⟨d, hd, rfl⟩ := Option.map_eq_some_iff.1 h
  cases hw : w.agenda with
  | nil => rw [hw] at hd; cases hd
  | cons e rest =>
    rw [hw] at hd
    cases hd
    have := w.advanceTo_agenda_length_lt d.time d rest hw (Nat.le_refl _)
    rwa [hw] at this

theorem awaitExit_of_late {i deadline : Nat} (hx : v.visibleExit i = none)
    (h : ∀ u, v.nextDue? = some u → deadline < u) :
    v.awaitExit i deadline = (v.advanceTo deadline, none) := by
  cases hv : v.agenda with
  | nil => exact awaitExit_of_nil hx hv
  | cons d rest =>
    rw [awaitExit_of_cons hx hv, if_neg]
    exact Nat.not_le.2 (h d.time (by rw [nextDue?, hv]; rfl))

/-- To have let time pass before makes no difference to who waits for an exit. -/
theorem awaitExit_advanceTo {i t deadline : Nat} (hx : v.visibleExit i = none)
    (hn : v.now ≤ deadline) (ht : t ≤ deadline) (h : ∀ u, v.nextDue? = some u → t ≤ u) :
    (v.advanceTo t).awaitExit i deadline = v.awaitExit i deadline := by
  by_cases heq : v.nextDue? = some t
  · obtain ⟨d, hd, rfl⟩ := Option.map_eq_some_iff.1 heq
    cases hv : v.agenda with
    | nil => rw [hv] at hd; cases hd
    | cons e rest =>
      rw [hv] at hd
      cases hd
      rw [awaitExit_of_cons hx hv, if_pos ht]
  · obtain ⟨hadvance, hmay⟩ := v.advanceTo_of_lt_next fun u hu =>
      Nat.lt_of_le_of_ne (h u hu) fun htu => heq (htu ▸ hu)
    rw [hadvance]
    exact hmay.awaitExit hx (Nat.max_le.2 ⟨hn, ht⟩)

/-- Who cannot tell two worlds apart, whenever it looks, sees an exit in both or in neither. -/
theorem same_awaitExit (now : ∀ {w v}, W w v → w.now = v.now)
    (visibleExit : ∀ {w v}, W w v → ∀ i, w.visibleExit i = v.visibleExit i)
    (advanceTo : ∀ {w v}, W w v → ∀ t, W (w.advanceTo t) (v.advanceTo t)) {w v : World} (h : W w v)
    (i : Nat) {deadline : Nat} (hn : v.now ≤ deadline) :
    Same W (w.awaitExit i deadline) (v.awaitExit i deadline) := by
  have hsame := visibleExit h i
  cases hx : v.visibleExit i with
  | some r =>
    rw [awaitExit_of_visible v hx, awaitExit_of_visible w (hsame.trans hx)]
    exact .mk _ h
  | none =>
    rw [hx] at hsame
    rcases exists_first w.nextDue? v.nextDue? with ⟨hw, hv⟩ | ⟨t, hfirst, hw, hv⟩
    · rw [awaitExit_of_late hx (by rw [hv]; exact nofun),
        awaitExit_of_late hsame (by rw [hw]; exact nofun)]
      exact .mk _ (advanceTo h deadline)
    · -- `t` is the first instant at which anything is due in either
      rcases Nat.lt_or_ge deadline t with ht | ht
      · rw [awaitExit_of_late hx fun u hu => Nat.lt_of_lt_of_le ht (hv u hu),
          awaitExit_of_late hsame fun u hu => Nat.lt_of_lt_of_le ht (hw u hu)]
        exact .mk _ (advanceTo h deadline)
      · rw [← awaitExit_advanceTo hx hn ht hv,
          ← awaitExit_advanceTo hsame (by rw [now h]; exact hn) ht hw]
        exact same_awaitExit now visibleExit advanceTo (advanceTo h t) i
          (by rw [advanceTo_now]; exact Nat.max_le.2 ⟨hn, ht⟩)
termination_by w.agenda.length + v.agenda.length
decreasing_by
  have hle := w.advanceTo_agenda_length_le t
  have hle' := v.advanceTo_agenda_length_le t
  rcases hfirst with hf | hf
  · have := agenda_length_advanceTo hf
    omega
  · have := agenda_length_advanceTo hf
    omega

theorem Stops.of_advanceTo (now : ∀ {w v}, W w v → w.now = v.now)
    (visibleExit : ∀ {w v}, W w v → ∀ i, w.visibleExit i = v.visibleExit i)
    (signal : ∀ {w v}, W w v → ∀ i s, Same W (w.signal i s) (v.signal i s))
    (advanceTo : ∀ {w v}, W w v → ∀ t, W (w.advanceTo t) (v.advanceTo t)) : Stops .none W where
  signal h i s := signal h i s
  awaitExit h i _ hn := same_awaitExit now visibleExit advanceTo h i hn

end World

namespace Session

variable {s r : Session}

theorem eq_atClock {a c : Nat} (h : s.atClock a = r.atClock c) : s = r.atClock s.world.now :=
  have hclock : (s.atClock a).atClock s.world.now = (r.atClock c).atClock s.world.now := by rw [h]
  hclock

/-- How time passes for a session that has nothing to do before `t`. -/
theorem run_advanceTo (hr : s.react = none) (hover : ¬s.IsOver) {t : Nat}
    (ht : ∀ u, s.wake? = some u → t ≤ u) :
    ∃ c, (s.inWorld (s.world.advanceTo t)).run = s.run.atClock c := by
  have hwait := wait_of_unfinished (r := s) fun u hu => hover ⟨u, hu⟩
  by_cases heq : s.wake? = some t
  · rw [heq, Option.map_some] at hwait
    exact ⟨s.run.world.now, by rw [run_of_wait hr hwait]; rfl⟩
  · have hlt : ∀ u, s.wake? = some u → t < u := fun u hu =>
      Nat.lt_of_le_of_ne (ht u hu) fun htu => heq (htu ▸ hu)
    have htimer : ∀ u, s.timer? = some u → t < u := by
      intro u hu
      unfold wake? at hlt
      rw [hu] at hlt
      cases hn : s.world.nextDue? with
      | none => rw [hn] at hlt; exact hlt u rfl
      | some x =>
        rw [hn] at hlt
        have := hlt _ rfl
        omega
    obtain ⟨hadvance, hmay⟩ := s.world.advanceTo_of_lt_next fun u hu => by
      unfold wake? at hlt
      rw [hu] at hlt
      cases hn : s.timer? with
      | none => rw [hn] at hlt; exact hlt u rfl
      | some x =>
        rw [hn] at hlt
        have := hlt _ rfl
        omega
    rw [hadvance]
    exact run_atClock hr hmay fun u hu => Nat.max_lt.2 ⟨now_lt_timer hr hu, htimer u hu⟩

/-- What is left to do for a session, as far as it bounds its run. -/
structure NoFarther (s s' : Session) : Prop where
  commandsLeft : s'.world.commandsLeft ≤ s.world.commandsLeft
  weight : s'.weight = s.weight
  agenda : s'.world.agenda.length ≤ s.world.agenda.length
  remaining : s'.remaining ≤ s.remaining

theorem noFarther_advanceTo (s : Session) (t : Nat) :
    NoFarther s (s.inWorld (s.world.advanceTo t)) where
  commandsLeft := s.world.advanceTo_commandsLeft_le t
  weight := rfl
  agenda := s.world.advanceTo_agenda_length_le t
  remaining := by
    have htimer : (s.inWorld (s.world.advanceTo t)).timer? = s.timer? := rfl
    have hnow : (s.inWorld (s.world.advanceTo t)).world.now = max s.world.now t :=
      s.world.advanceTo_now t
    unfold remaining
    rw [htimer, hnow]
    omega

/-- Pairs of sessions between which one step of one, of the other or of both makes no difference to
what `R` says, and neither does time that passes for both. -/
structure Tracks (R : Session → Session → Prop) : Prop where
  react : ∀ {s r}, R s r →
    (∃ s' r', s.react = some s' ∧ r.react = some r' ∧ R s' r') ∨
      (∃ s', s.react = some s' ∧ R s' r) ∨ s.react = none ∧ r.react = none
  isOver : ∀ {s r}, R s r → (s.IsOver ↔ r.IsOver)
  wait : ∀ {s r t}, R s r → s.react = none → r.react = none → ¬s.IsOver →
    (s.wake? = some t ∨ r.wake? = some t) → (∀ u, s.wake? = some u → t ≤ u) →
    (∀ u, r.wake? = some u → t ≤ u) →
    R (s.inWorld (s.world.advanceTo t)) (r.inWorld (r.world.advanceTo t))

/-- Sessions in step, in worlds that they cannot tell apart at any time. -/
theorem InStep.tracks {markers : List String} {heard : Nat → Prop} {W : World → World → Prop}
    (hW : World.Mirrors .none markers heard W) (hS : World.Stops .none W)
    (advanceTo : ∀ {w v}, W w v → ∀ t, W (w.advanceTo t) (v.advanceTo t)) :
    Tracks (InStep .none markers heard W) where
  react := by
    intro s r h
    have hrel := h.react hW fun _ _ _ => hS
    generalize s.react = x at hrel
    generalize r.react = y at hrel
    cases hrel with
    | some h' => exact .inl ⟨_, _, rfl, rfl, h'⟩
    | none => exact .inr (.inr ⟨rfl, rfl⟩)
  isOver h := h.isOver_iff
  wait h _ _ _ _ _ _ := { h with world := advanceTo h.world _ }

/-- What runs to its end from such a pair ends in one, but for the clocks. -/
theorem Tracks.run {R : Session → Session → Prop} (hR : Tracks R) {s r : Session} (h : R s r) :
    ∃ s' r' c c', R s' r' ∧ s'.step = none ∧ r'.step = none ∧
      s.run = s'.atClock c ∧ r.run = r'.atClock c' := by
  rcases hR.react h with ⟨s', r', hs, hr, h'⟩ | ⟨s', hs, h'⟩ | ⟨hs, hr⟩
  · rw [run_of_react hs, run_of_react hr]
    exact Tracks.run hR h'
  · rw [run_of_react hs]
    exact Tracks.run hR h'
  · by_cases hover : s.IsOver
    · obtain ⟨a, ha⟩ := hover
      obtain ⟨b, hb⟩ := (hR.isOver h).1 ⟨a, ha⟩
      refine ⟨s, r, s.world.now, r.world.now, h, ?_, ?_, ?_, ?_⟩
      · rw [step, hs, wait_of_finished ha]
      · rw [step, hr, wait_of_finished hb]
      · exact run_of_stuck hs (wait_of_finished ha)
      · exact run_of_stuck hr (wait_of_finished hb)
    · have hover' : ¬r.IsOver := fun hr => hover ((hR.isOver h).2 hr)
      have hwait := wait_of_unfinished (r := s) fun u hu => hover ⟨u, hu⟩
      have hwait' := wait_of_unfinished (r := r) fun u hu => hover' ⟨u, hu⟩
      rcases exists_first s.wake? r.wake? with ⟨hws, hwr⟩ | ⟨t, hfirst, hws, hwr⟩
      · rw [hws] at hwait
        rw [hwr] at hwait'
        refine ⟨s, r, s.world.now, r.world.now, h, ?_, ?_, ?_, ?_⟩
        · rw [step, hs]; exact hwait
        · rw [step, hr]; exact hwait'
        · exact run_of_stuck hs hwait
        · exact run_of_stuck hr hwait'
      · obtain ⟨s', r', c, c', h', hstep, hstep', hrun, hrun'⟩ :=
          Tracks.run hR (hR.wait h hs hr hover hfirst hws hwr)
        obtain ⟨a, ha⟩ := run_advanceTo hs hover hws
        obtain ⟨b, hb⟩ := run_advanceTo hr hover' hwr
        exact ⟨s', r', _, _, h', hstep, hstep', eq_atClock (ha.symm.trans hrun),
          eq_atClock (hb.symm.trans hrun')⟩
-- who acts comes nearer to its end, and so does, as time passes, who is the first to look
termination_by (s.world.commandsLeft + r.world.commandsLeft, s.weight + r.weight,
  s.world.agenda.length + r.world.agenda.length, s.remaining + r.remaining)
decreasing_by
  · have hls := nearer_react hs
    have hlr := nearer_react hr
    unfold Nearer at hls hlr
    simp only [Prod.lex_def]
    omega
  · have hls := nearer_react hs
    unfold Nearer at hls
    simp only [Prod.lex_def]
    omega
  · have hls := s.noFarther_advanceTo t
    have hlr := r.noFarther_advanceTo t
    have hc := hls.commandsLeft
    have hc' := hlr.commandsLeft
    have hw := hls.weight
    have hw' := hlr.weight
    have ha := hls.agenda
    have ha' := hlr.agenda
    have hm := hls.remaining
    have hm' := hlr.remaining
    simp only [Prod.lex_def]
    rcases hfirst with hf | hf
    · rw [hf, Option.map_some] at hwait
      have hp := (wait_progress hs hwait).2.2
      omega
    · rw [hf, Option.map_some] at hwait'
      have hp := (wait_progress hr hwait').2.2
      omega

end Session

namespace Opening

open Session

variable {o o' : Opening}

/-- Two runs of one program begin in step, whatever the worlds are that they cannot tell apart. -/
theorem inStep_zero {heard : Nat → Prop} {W : World → World → Prop}
    (config : o'.config = o.config) (program : o'.program = o.program)
    (world : W (o.world.advanceTo o.world.now) (o'.world.advanceTo o'.world.now)) :
    InStep .none o.config.readiness.markers heard W (o.state 0) (o'.state 0) := by
  have hsession : o'.session = o.session.inWorld o'.world := by
    have h := o.opened_in o'.world
    rw [← config, ← program, o'.opened] at h
    exact Except.ok.inj h
  obtain ⟨url, ho⟩ := o.session_eq
  rw [state, state, Function.iterate_zero, id, id, hsession, ho]
  exact ⟨⟨rfl, rfl, rfl, rfl, world, rfl, rfl, rfl, rfl, rfl⟩, rfl, fun _ => False.elim⟩

end Opening
end DesktopHost
