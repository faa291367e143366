import DesktopHost.Session.Lemmas

/-!
Whole runs of a session. Every step either handles a command, or brings the session nearer to the
end of its phase, or meets something due, or lets time pass up to its next look; so a run ends.
-/

set_option autoImplicit false

namespace DesktopHost.Session

/-- Bounds the acts that are left before a command is needed to go on. -/
def weight (s : Session) : Nat :=
  match s.phase with
  | .launching => 2 * s.config.readiness.maxAttempts + 7
  | .reviving => 2 * s.config.readiness.maxAttempts + 7
  | .probing none => 2 * s.config.readiness.maxAttempts + 6
  | .probing (some race) => race.weight + 3
  | .hosting => if s.backend.isSome then 2 else 1
  | .finished _ => 0

/-- How long the session still waits of its own accord. -/
def remaining (s : Session) : Nat := s.timer?.getD 0 - s.world.now

/-- Progress without the passing of time. -/
def Nearer (s s' : Session) : Prop :=
  s'.world.commandsLeft < s.world.commandsLeft ∨
    s'.world.commandsLeft ≤ s.world.commandsLeft ∧ s'.weight < s.weight

theorem weight_hosting {s : Session} (h : s.phase = .hosting) : s.weight ≤ 2 := by
  unfold weight; rw [h]; dsimp only; split <;> decide

theorem quit_phase (s : Session) : ∃ t, s.quit.phase = .finished t := ⟨_, rfl⟩

theorem weight_quit (s : Session) : s.quit.weight = 0 := rfl

theorem weight_startCycle_le (s : Session) :
    s.startCycle.weight ≤ 2 * s.config.readiness.maxAttempts + 6 := by
  rcases s.startCycle_phase with h | h
  · have := weight_hosting h; omega
  · unfold weight; rw [h]
    exact Nat.le_of_eq (congrArg (fun c => 2 * c.readiness.maxAttempts + 6) s.startCycle_keeps.1)

theorem Nearer.ofLess {s s' : Session} (h : s'.world.commandsLeft ≤ s.world.commandsLeft)
    (hw : s'.weight < s.weight) : Nearer s s' := .inr ⟨h, hw⟩

theorem start_weight_le (limits : ReadinessConfig) (w : World) (child : Nat) :
    (Race.start limits w child).2.weight ≤ 2 * limits.maxAttempts + 1 := by
  simp only [Race.start, Race.weight, Poll.start, Poll.check, Poll.weight, Attempts.new,
    Attempts.record]
  omega

theorem start_commandsLeft (limits : ReadinessConfig) (w : World) (child : Nat) :
    (Race.start limits w child).1.commandsLeft = w.commandsLeft :=
  World.commandsLeft_eq w.startCheck_frame

theorem weight_probing (s : Session) (w : World) (r : Race) :
    ((s.inWorld w).inPhase (.probing (some r))).weight = r.weight + 3 := rfl

theorem nearer_probeReadiness {s s' : Session} {race : Option Race} (hp : s.phase = .probing race)
    (h : s.probeReadiness race = some s') : Nearer s s' := by
  unfold probeReadiness at h
  split at h
  · obtain ⟨b, _, rfl⟩ := Option.map_eq_some_iff.1 h
    refine .ofLess (Nat.le_of_eq (start_commandsLeft s.config.readiness s.world b.child)) ?_
    have hw := start_weight_le s.config.readiness s.world b.child
    have h6 : s.weight = 2 * s.config.readiness.maxAttempts + 6 := by unfold weight; rw [hp]
    have h3 : (s.startRace b.child).weight =
        (Race.start s.config.readiness s.world b.child).2.weight + 3 := rfl
    omega
  · next r =>
    split at h
    · cases h
    · next w r' hr =>
      cases h
      refine .ofLess (Nat.le_of_eq (World.commandsLeft_eq (Race.frame_of_moved hr))) ?_
      have hw := Race.weight_of_moved hr
      have h3 : s.weight = r.weight + 3 := by unfold weight; rw [hp]
      rw [weight_probing]
      omega
    · next w signal hr =>
      cases h
      have hk := ((note_keeps (s.inWorld w)
        (.readinessResolved signal (w.now - r.started))).trans (moveTo_keeps _ .ready)).trans
        (openWindow_keeps _)
      refine .ofLess ?_ ?_
      · exact Nat.le_of_eq (hk.commandsLeft.trans
          (World.commandsLeft_eq (Race.frame_of_resolved hr)))
      · have hw := weight_hosting (s := (s.inWorld w).becomeReady signal (w.now - r.started)) rfl
        have : s.weight = r.weight + 3 := by unfold weight; rw [hp]
        omega

theorem nearer_probe {s s' : Session} {race : Option Race} (hp : s.phase = .probing race)
    (h : s.probe race = some s') : Nearer s s' := by
  have h3 : 3 ≤ s.weight := by
    unfold weight; rw [hp]; cases race <;> dsimp only <;> omega
  unfold probe at h
  split at h
  · next r _ =>
    cases h
    refine .ofLess (Nat.le_of_eq (s.backendExited_keeps r).commandsLeft) ?_
    have hw := weight_hosting (s := (s.backendExited r).inPhase .hosting) rfl
    omega
  · split at h
    · next w hr =>
      cases h
      exact .inl (Nat.lt_of_le_of_lt (quit_commandsLeft_le _) (World.receive_command hr))
    · next w hr =>
      cases h
      cases World.receive_closed hr
      refine .ofLess (quit_commandsLeft_le _) ?_
      rw [weight_quit]; omega
    · next w c _ hr =>
      cases h
      exact .inl (show w.commandsLeft < _ from World.receive_command hr)
    · exact nearer_probeReadiness hp h

theorem activate_commandsLeft (s : Session) :
    s.activate.world.commandsLeft = s.world.commandsLeft := by
  unfold activate
  split
  · rfl
  · split
    · next r _ => exact (s.backendExited_keeps r).commandsLeft
    · rfl

theorem handleCommand_commandsLeft_le (s : Session) (c : Command) :
    (s.handleCommand c).world.commandsLeft ≤ s.world.commandsLeft := by
  cases c with
  | activate => exact Nat.le_of_eq s.activate_commandsLeft
  | windowClosed =>
    have h := s.closeWindow_keeps.commandsLeft
    simp only [handleCommand, afterClosing]
    split
    · exact Nat.le_trans (quit_commandsLeft_le _) (Nat.le_of_eq h)
    · exact Nat.le_of_eq h
  | quit => exact s.quit_commandsLeft_le

theorem nearer_host {s s' : Session} (hp : s.phase = .hosting) (h : s.host = some s') :
    Nearer s s' := by
  have h1 : 1 ≤ s.weight := by unfold weight; rw [hp]; dsimp only; split <;> decide
  unfold host at h
  split at h
  · cases h
    exact .ofLess (Nat.le_refl _) h1
  · split at h
    · next r he =>
      cases h
      have hk := s.backendExited_keeps r
      refine .ofLess (Nat.le_of_eq hk.commandsLeft) ?_
      have hb : s.backend.isSome := by
        unfold backendExit? at he
        cases hs : s.backend with
        | none => rw [hs] at he; cases he
        | some b => rfl
      have h2 : s.weight = 2 := by unfold weight; rw [hp]; dsimp only; rw [if_pos hb]
      have hp' : (s.backendExited r).phase = .hosting := hk.phase.trans hp
      have hb' : (s.backendExited r).backend = none := hk.backend
      have h3 : (s.backendExited r).weight = 1 := by
        unfold weight; rw [hp', hb']; rfl
      omega
    · split at h
      · next w c hr =>
        cases h
        exact .inl (Nat.lt_of_le_of_lt (handleCommand_commandsLeft_le _ _)
          (World.receive_command hr))
      · next w hr =>
        cases h
        cases World.receive_closed hr
        refine .ofLess (quit_commandsLeft_le _) ?_
        rw [weight_quit]; omega
      · cases h

theorem nearer_revive {s : Session} (hp : s.phase = .reviving) : Nearer s s.revive := by
  have hw : s.weight = 2 * s.config.readiness.maxAttempts + 7 := by unfold weight; rw [hp]
  unfold revive
  split
  · refine .ofLess (Nat.le_of_eq s.openWindow_keeps.commandsLeft) ?_
    have := weight_hosting (s := s.openWindow.inPhase .hosting) rfl
    omega
  · have hc := (s.note .restarting).startCycle_keeps
    have hl := (s.note .restarting).weight_startCycle_le
    refine .ofLess (Nat.le_of_eq hc.2) ?_
    have : (s.note .restarting).config = s.config := rfl
    rw [this] at hl
    omega

theorem nearer_react {s s' : Session} (h : s.react = some s') : Nearer s s' := by
  unfold react at h
  split at h
  · next hp =>
    cases h
    refine .ofLess (Nat.le_of_eq s.startCycle_keeps.2) ?_
    have hw : s.weight = 2 * s.config.readiness.maxAttempts + 7 := by unfold weight; rw [hp]
    have := s.weight_startCycle_le
    omega
  · next hp => exact nearer_probe hp h
  · next hp => exact nearer_host hp h
  · next hp => cases h; exact nearer_revive hp
  · cases h

/-- A session that does nothing of its own accord looks again only later. -/
theorem now_lt_timer {s : Session} {t : Nat} (hr : s.react = none) (ht : s.timer? = some t) :
    s.world.now < t := by
  unfold timer? at ht
  split at ht
  · next race hp =>
    cases ht
    unfold react at hr
    rw [hp] at hr
    dsimp only at hr
    unfold probe at hr
    split at hr
    · cases hr
    · split at hr
      · cases hr
      · cases hr
      · cases hr
      · unfold probeReadiness at hr
        dsimp only at hr
        split at hr
        · next hb => exact Race.due_of_blocked hb
        · cases hr
        · cases hr
  · cases ht

/-- What waiting changes: something due is met, or the session's own next look comes nearer. -/
theorem wait_progress {s s' : Session} (hr : s.react = none) (h : s.wait = some s') :
    s'.world.commandsLeft ≤ s.world.commandsLeft ∧ s'.weight = s.weight ∧
      (s'.world.agenda.length < s.world.agenda.length ∨
        s'.world.agenda.length ≤ s.world.agenda.length ∧ s'.remaining < s.remaining) := by
  unfold wait at h
  split at h
  · cases h
  · obtain ⟨t, ht, rfl⟩ := Option.map_eq_some_iff.1 h
    refine ⟨s.world.advanceTo_commandsLeft_le t, rfl, ?_⟩
    unfold wake? World.nextDue? at ht
    cases ha : s.world.agenda with
    | nil =>
      rw [ha] at ht
      simp only [List.head?_nil, Option.map_none] at ht
      split at ht
      · next hd => cases hd
      · next u hu _ =>
        cases ht
        refine .inr ⟨?_, ?_⟩
        · rw [← ha]; exact s.world.advanceTo_agenda_length_le _
        · have hlt := now_lt_timer hr hu
          have hu' : (s.inWorld (s.world.advanceTo t)).timer? = some t := hu
          unfold remaining
          rw [hu, hu']
          have hn : (s.inWorld (s.world.advanceTo t)).world.now = max s.world.now t :=
            World.advanceTo_now _ _
          rw [hn]
          simp only [Option.getD_some]
          omega
      · cases ht
    | cons d rest =>
      rw [ha] at ht
      simp only [List.head?_cons, Option.map_some] at ht
      by_cases hd : d.time ≤ t
      · left
        have := s.world.advanceTo_agenda_length_lt t d rest ha hd
        rwa [ha] at this
      · right
        split at ht
        · next u e hu he =>
          cases he
          cases ht
          have hut : min u d.time = u := by omega
          rw [hut] at hd ⊢
          refine ⟨?_, ?_⟩
          · rw [← ha]; exact s.world.advanceTo_agenda_length_le _
          · have hlt := now_lt_timer hr hu
            have hu' : (s.inWorld (s.world.advanceTo u)).timer? = some u := hu
            unfold remaining
            rw [hu, hu']
            have hn : (s.inWorld (s.world.advanceTo u)).world.now = max s.world.now u :=
              World.advanceTo_now _ _
            rw [hn]
            simp only [Option.getD_some]
            omega
        · next he => cases he
        · cases ht; omega

/-- Runs a session until it is over, or until nothing will ever happen to it again. -/
def run (s : Session) : Session :=
  match _hr : s.react with
  | some s' => run s'
  | none =>
    match _hw : s.wait with
    | some s' => run s'
    | none => s
termination_by (s.world.commandsLeft, s.weight, s.world.agenda.length, s.remaining)
decreasing_by
  · rcases nearer_react _hr with h | ⟨h, h'⟩
    · exact Prod.Lex.left _ _ h
    · rcases Nat.lt_or_eq_of_le h with h | h
      · exact Prod.Lex.left _ _ h
      · rw [h]; exact Prod.Lex.right _ (Prod.Lex.left _ _ h')
  · obtain ⟨h₁, h₂, h₃⟩ := wait_progress _hr _hw
    rcases Nat.lt_or_eq_of_le h₁ with h | h
    · exact Prod.Lex.left _ _ h
    · rw [h, h₂]
      refine Prod.Lex.right _ (Prod.Lex.right _ ?_)
      rcases h₃ with h₃ | ⟨h₃, h₄⟩
      · exact Prod.Lex.left _ _ h₃
      · rcases Nat.lt_or_eq_of_le h₃ with h | h
        · exact Prod.Lex.left _ _ h
        · rw [h]; exact Prod.Lex.right _ h₄

/-- The instant at which a session was over. -/
def finishedAt? (s : Session) : Option Nat :=
  match s.phase with
  | .finished t => some t
  | _ => none

/-- A whole run: what is due at the start happens before the session does anything. -/
def play (s : Session) : Session := (s.inWorld (s.world.advanceTo s.world.now)).run

end DesktopHost.Session
