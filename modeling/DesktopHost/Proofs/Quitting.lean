import DesktopHost.Proofs.Foresight
import DesktopHost.Proofs.Moves

/-!
A quit is the last thing a session does. After it nothing reaches the world any more but the
signals to the one backend that was held, and those within a fixed time.
-/

set_option autoImplicit false

namespace DesktopHost

/-- A signal to a child, or the record that a quit begins. -/
def Event.isEnding : Event → Bool
  | .signal .. | .note (.quitRequested _) => true
  | _ => false

namespace World

variable (w : World)

theorem deeds_signal {h : Handle} (hx : h.exitReport w = none) (s : TerminationSignal) :
    (h.signal w s).1.deeds = (w.now, .signal h.child s) :: w.deeds := by
  unfold Handle.signal
  rw [hx]
  dsimp only
  unfold signal
  dsimp only
  split <;> rfl

theorem signal_now {h : Handle} (hx : h.exitReport w = none) (s : TerminationSignal) :
    (h.signal w s).1.now = w.now := by
  unfold Handle.signal
  rw [hx]
  dsimp only
  unfold signal
  dsimp only
  split <;> rfl

/-- A wait for an exit ends in time, and exactly at its deadline if it is in vain. -/
theorem awaitExit_now (i : Nat) {deadline : Nat} (h : w.now ≤ deadline) :
    w.now ≤ (w.awaitExit i deadline).1.now ∧ (w.awaitExit i deadline).1.now ≤ deadline ∧
      ((w.awaitExit i deadline).2 = none → (w.awaitExit i deadline).1.now = deadline) := by
  fun_induction World.awaitExit w i deadline with
  | case1 w => exact ⟨Nat.le_refl _, h, fun hr => by cases hr⟩
  | case2 w =>
    rw [advanceTo_now]
    omega
  | case3 w _ d rest _ hd ih =>
    have hn := w.advanceTo_now d.time
    have ih := ih (by omega)
    exact ⟨by omega, ih.2⟩
  | case4 w =>
    rw [advanceTo_now]
    omega

end World

/-- A signal at the moment it is sent. -/
structure Sending where
  handle : Handle
  world : World
  signal : TerminationSignal

namespace Sending

def deed (m : Sending) : Nat × Event := (m.world.now, .signal m.handle.child m.signal)

def timed (m : Sending) : Nat × TerminationSignal := (m.world.now, m.signal)

end Sending

namespace Session

variable (s : Session)

@[simp] theorem moveTo_shutdown (t : LifecycleState) : (s.moveTo t).shutdown = s.shutdown := by
  unfold moveTo
  split <;> rfl

@[simp] theorem beginShutdown_shutdown : s.beginShutdown.shutdown = s.shutdown := by
  unfold beginShutdown
  split
  · rfl
  · exact s.moveTo_shutdown _

@[simp] theorem endShutdown_shutdown : s.endShutdown.shutdown = s.shutdown := by
  unfold endShutdown
  split
  · exact s.moveTo_shutdown _
  · rfl

theorem stopBackend_grace : s.stopBackend.shutdown.grace = s.shutdown.grace := by
  unfold stopBackend
  split
  · rfl
  · dsimp only
    unfold Shutdown.stop
    split <;> rfl

theorem quit_grace : s.quit.shutdown.grace = s.shutdown.grace := by
  change ((s.note _).beginShutdown.stopBackend.endShutdown).shutdown.grace = _
  rw [endShutdown_shutdown, stopBackend_grace, beginShutdown_shutdown]
  rfl

end Session

/-- The world winds down from `start`: time passes, remarks are made, and signals go out, of which
the newest comes first, each to a process whose exit is not published yet. -/
inductive WindsDown (start : World) : List Sending → World → Prop where
  | nothing : WindsDown start [] start
  | passes {ms : List Sending} {w : World} (t : Nat) :
    WindsDown start ms w → WindsDown start ms (w.advanceTo t)
  | remarks {ms : List Sending} {w : World} {n : Note} (h : n.isDeed = false) :
    WindsDown start ms w → WindsDown start ms (w.note n)
  | sends {ms : List Sending} {w : World} {h : Handle} (s : TerminationSignal)
    (alive : h.exitReport w = none) :
    WindsDown start ms w → WindsDown start (⟨h, w, s⟩ :: ms) (h.signal w s).1
  | deafens {ms : List Sending} {w : World} :
    WindsDown start ms w → WindsDown start ms { w with listening := false }

/-- At most a graceful signal at `t`, and at most a forceful one the grace period after it. -/
inductive Escalation (t grace : Nat) : List (Nat × TerminationSignal) → Prop where
  | none : Escalation t grace []
  | graceful : Escalation t grace [(t, .graceful)]
  | forceful : Escalation t grace [(t + grace, .forceful), (t, .graceful)]

namespace WindsDown

variable {start w : World} {ms : List Sending}

theorem deeds (h : WindsDown start ms w) : w.deeds = ms.map Sending.deed ++ start.deeds := by
  induction h with
  | nothing => rfl
  | passes t _ ih => rw [World.deeds_advanceTo, ih]
  | remarks hn _ ih => rw [World.deeds_note _ hn, ih]
  | sends s hx _ ih => rw [World.deeds_signal _ hx, ih]; rfl
  | deafens _ ih => exact ih

theorem alive (h : WindsDown start ms w) : ∀ m ∈ ms, m.handle.exitReport m.world = none := by
  induction h with
  | nothing => exact fun m hm => absurd hm List.not_mem_nil
  | passes _ _ ih | remarks _ _ ih | deafens _ ih => exact ih
  | sends s hx _ ih =>
    intro m hm
    rcases List.mem_cons.1 hm with rfl | hm
    · exact hx
    · exact ih m hm

theorem awaitExit (h : WindsDown start ms w) (i deadline : Nat) :
    WindsDown start ms (w.awaitExit i deadline).1 := by
  fun_induction World.awaitExit w i deadline with
  | case1 => exact h
  | case2 => exact h.passes _
  | case3 _ _ _ _ _ _ ih => exact ih (h.passes _)
  | case4 => exact h.passes _

theorem send (h : WindsDown start ms w) {b : Handle} (hx : b.exitReport w = none)
    (s : TerminationSignal) : WindsDown start (⟨b, w, s⟩ :: ms) (Shutdown.send w b s) ∧
      (Shutdown.send w b s).now = w.now := by
  have hs := h.sends s hx
  have hn := w.signal_now hx s
  unfold Shutdown.send
  split <;> next he => rw [he] at hs hn; first | exact ⟨hs, hn⟩ | exact ⟨hs.remarks rfl, hn⟩

theorem send_skipped (h : WindsDown start ms w) {b : Handle} {r : ExitReport}
    (hx : b.exitReport w = some r) (s : TerminationSignal) :
    WindsDown start ms (Shutdown.send w b s) ∧ (Shutdown.send w b s).now = w.now ∧
      b.exitReport (Shutdown.send w b s) = some r := by
  unfold Shutdown.send Handle.signal
  rw [hx]
  exact ⟨h.remarks rfl, rfl, hx⟩

/-- The end of the grace period: the forceful signal at once, unless the exit has come. -/
theorem force (h : WindsDown start ms w) (b : Handle) (grace : Nat) :
    ∃ fs, WindsDown start (fs ++ ms) (Shutdown.force w b grace).1 ∧
      (∀ m ∈ fs, m.handle = b) ∧
      (fs.map Sending.timed = [] ∨ fs.map Sending.timed = [(w.now, .forceful)]) ∧
      w.now ≤ (Shutdown.force w b grace).1.now ∧
      (Shutdown.force w b grace).1.now ≤ w.now + Shutdown.reapTimeout := by
  have hn : WindsDown start ms (w.note (.forcing b.pid grace)) := h.remarks rfl
  have hnow : (w.note (.forcing b.pid grace)).now = w.now := rfl
  unfold Shutdown.force
  generalize w.note (.forcing b.pid grace) = w₁ at hn hnow
  dsimp only
  cases hx : b.exitReport w₁ with
  | none =>
    obtain ⟨hs, hsn⟩ := hn.send hx .forceful
    generalize Shutdown.send w₁ b .forceful = w₂ at hs hsn
    have ha := hs.awaitExit b.child (w₂.now + Shutdown.reapTimeout)
    have ht := w₂.awaitExit_now b.child (Nat.le_add_right w₂.now Shutdown.reapTimeout)
    refine ⟨[⟨b, w₁, .forceful⟩], ?_, by simp, .inr ?_, ?_⟩
    · split <;> next he => rw [he] at ha; first | exact ha | exact ha.remarks rfl
    · rw [← hnow]; rfl
    · split <;> next he => rw [he] at ht; dsimp only [World.note_now] at ht ⊢; omega
  | some r =>
    obtain ⟨hs, hsn, hsx⟩ := hn.send_skipped hx .forceful
    rw [World.awaitExit_of_visible _ (World.visibleExit_of_published _ hsx)]
    refine ⟨[], hs, by simp, .inl rfl, ?_⟩
    dsimp only
    omega

theorem escalate (h : WindsDown start [] w) (b : Handle) (grace : Nat) :
    ∃ ms, WindsDown start ms (Shutdown.escalate w b grace).1 ∧ (∀ m ∈ ms, m.handle = b) ∧
      Escalation w.now grace (ms.map Sending.timed) ∧
      w.now ≤ (Shutdown.escalate w b grace).1.now ∧
      (Shutdown.escalate w b grace).1.now ≤ w.now + grace + Shutdown.reapTimeout := by
  unfold Shutdown.escalate
  split
  · refine ⟨[], h.remarks rfl, by simp, .none, ?_⟩
    dsimp only [World.note_now]
    omega
  · next hx =>
    obtain ⟨hs, hsn⟩ := h.send hx .graceful
    dsimp only
    generalize Shutdown.send w b .graceful = w₁ at hs hsn
    have ha := hs.awaitExit b.child (w₁.now + grace)
    have ht := w₁.awaitExit_now b.child (Nat.le_add_right w₁.now grace)
    split
    · next w₂ r he =>
      rw [he] at ha ht
      dsimp only at ha ht ⊢
      exact ⟨_, ha, by simp, .graceful, by omega, by omega⟩
    · next w₂ he =>
      rw [he] at ha ht
      dsimp only at ha ht
      have hlate : w₂.now = w.now + grace := by rw [ht.2.2 rfl, hsn]
      obtain ⟨fs, hf, hb, htimes, hle, hge⟩ := ha.force b grace
      refine ⟨fs ++ [⟨b, w, .graceful⟩], hf, ?_, ?_, by omega, by omega⟩
      · intro m hm
        rcases List.mem_append.1 hm with hm | hm
        · exact hb m hm
        · rw [List.mem_singleton.1 hm]
      · rw [List.map_append]
        rcases htimes with hz | hone
        · rw [hz]; exact .graceful
        · rw [hone, hlate]; exact .forceful

theorem moveTo {s : Session} (h : WindsDown start ms s.world) (t : LifecycleState) :
    WindsDown start ms (s.moveTo t).world ∧ (s.moveTo t).world.now = s.world.now := by
  unfold Session.moveTo
  split <;> exact ⟨h.remarks rfl, rfl⟩

theorem beginShutdown {s : Session} (h : WindsDown start ms s.world) :
    WindsDown start ms s.beginShutdown.world ∧ s.beginShutdown.world.now = s.world.now := by
  unfold Session.beginShutdown
  split
  · exact ⟨h, rfl⟩
  · exact h.moveTo _

theorem endShutdown {s : Session} (h : WindsDown start ms s.world) :
    WindsDown start ms s.endShutdown.world ∧ s.endShutdown.world.now = s.world.now := by
  unfold Session.endShutdown
  split
  · exact h.moveTo _
  · exact ⟨h, rfl⟩

theorem stopBackend {s : Session} (h : WindsDown start [] s.world)
    (hs : s.shutdown.stopped = false) :
    ∃ ms, WindsDown start ms s.stopBackend.world ∧
      (∀ m ∈ ms, s.backend.map Handle.requestTermination = some m.handle) ∧
      Escalation s.world.now s.shutdown.grace (ms.map Sending.timed) ∧
      s.world.now ≤ s.stopBackend.world.now ∧
      s.stopBackend.world.now ≤ s.world.now + s.shutdown.grace + Shutdown.reapTimeout ∧
      (s.backend = none → s.stopBackend.world.now = s.world.now) := by
  unfold Session.stopBackend
  cases hb : s.backend with
  | none => exact ⟨[], h, by simp, .none, Nat.le_refl _, by dsimp only; omega, fun _ => rfl⟩
  | some b =>
    obtain ⟨ms, hw, hm, hesc, hle, hge⟩ := h.escalate b.requestTermination s.shutdown.grace
    dsimp only
    rw [Shutdown.stop_eq hs]
    exact ⟨ms, hw.remarks rfl, fun m hmem => congrArg some (hm m hmem).symm, hesc, hle, hge, nofun⟩

/-- A session that quits winds its world down, from the record of its quit on. -/
theorem quit {s : Session} (hs : s.shutdown.stopped = false) :
    ∃ ms, WindsDown (s.world.note (.quitRequested s.machine.state)) ms s.quit.world ∧
      (∀ m ∈ ms, s.backend.map Handle.requestTermination = some m.handle) ∧
      Escalation s.world.now s.shutdown.grace (ms.map Sending.timed) ∧
      s.quit.phase = .finished s.quit.world.now ∧
      s.world.now ≤ s.quit.world.now ∧
      s.quit.world.now ≤ s.world.now + s.shutdown.grace + Shutdown.reapTimeout ∧
      (s.backend = none → s.quit.world.now = s.world.now) := by
  have hn : WindsDown (s.world.note (.quitRequested s.machine.state)) []
      (s.note (.quitRequested s.machine.state)).world := .nothing
  have hk := ((s.note_keeps (.quitRequested s.machine.state)).trans (Session.beginShutdown_keeps _))
  obtain ⟨h₁, hn₁⟩ := hn.beginShutdown
  have hsh : (s.note (.quitRequested s.machine.state)).beginShutdown.shutdown = s.shutdown :=
    Session.beginShutdown_shutdown _
  have hb := hk.backend
  have hquit : s.quit =
      ((s.note (.quitRequested s.machine.state)).beginShutdown.stopBackend.endShutdown).finish :=
    rfl
  have hnow₁ : (s.note (.quitRequested s.machine.state)).beginShutdown.world.now = s.world.now :=
    hn₁
  generalize (s.note (.quitRequested s.machine.state)).beginShutdown = s₁ at *
  obtain ⟨ms, h₂, hm, hesc, hle, hge, hnone⟩ := h₁.stopBackend (by rw [hsh]; exact hs)
  obtain ⟨h₃, hn₃⟩ := h₂.endShutdown
  have hnow : s.quit.world.now = s₁.stopBackend.world.now := by rw [hquit]; exact hn₃
  rw [hb] at hm hnone
  rw [hsh, hnow₁] at hesc hge
  rw [hnow₁] at hle hnone
  refine ⟨ms, ?_, hm, hesc, ?_, by omega, by omega, fun h => hnow.trans (hnone h)⟩
  · rw [hquit]
    exact h₃.deafens
  · rw [hquit]
    rfl

end WindsDown

/-- From the quit that is handled in `s` to the end of the run in `s'`, at `t`. The signals on
the way are `ms`, newest first. -/
structure QuitEnds (grace : Nat) (s : Session) (ms : List Sending) (t : Nat) (s' : Session) :
    Prop where
  way : ∃ start, start.now = s.world.now ∧ start.children = s.world.children ∧
    start.deeds = (s.world.now, .note (.quitRequested s.machine.state)) :: s.world.deeds ∧
    WindsDown start ms s'.world
  deeds : s'.world.deeds = ms.map Sending.deed ++
    (s.world.now, .note (.quitRequested s.machine.state)) :: s.world.deeds
  held : ∀ m ∈ ms, s.backend.map Handle.requestTermination = some m.handle
  asked : ∀ m ∈ ms, m.handle.terminationRequested = true
  alive : ∀ m ∈ ms, m.handle.exitReport m.world = none
  escalation : Escalation s.world.now grace (ms.map Sending.timed)
  finished : s'.phase = .finished t
  notBefore : s.world.now ≤ t
  inTime : t ≤ s.world.now + grace + 1000
  atOnce : s.backend = none → t = s.world.now

namespace Opening

open Session

variable (o : Opening)

theorem grace_eq (k : Nat) : (o.state k).shutdown.grace = o.config.shutdownGrace := by
  induction k with
  | zero =>
    obtain ⟨url, h⟩ := o.state_zero
    rw [h]
    rfl
  | succ k ih =>
    cases o.move k with
    | quits s₁ _ about eq => rw [eq, quit_grace, about.shutdown, ih]
    | opens b s₁ _ gate eq =>
      obtain ⟨-, -, -, -, hsh, -⟩ := s₁.account_openWindow gate.closed gate.upright
      rw [eq, ← ih]
      exact congrArg Shutdown.grace (hsh.trans gate.shutdown)
    | waits t _ _ _ eq => rw [eq, ← ih]; rfl
    | other _ _ _ shutdown => rw [shutdown, ih]

variable {o} {k : Nat}

/-- A session quits once. -/
theorem finished_of_startsQuitting (h : (o.state k).StartsQuitting) :
    ∃ t, (o.state (k + 1)).phase = .finished t := by
  obtain ⟨s₁, -, eq⟩ := (o.move k).quit_of_starts h
  exact ⟨_, by rw [eq]; rfl⟩

theorem quitEnds (h : (o.state k).StartsQuitting) :
    ∃ ms t, QuitEnds o.config.shutdownGrace (o.state k) ms t (o.state (k + 1)) := by
  obtain ⟨s₁, about, eq⟩ := (o.move k).quit_of_starts h
  have hstopped : (o.state k).shutdown.stopped = false := by
    have hsound := o.sound k
    cases hp : (o.state k).phase with
    | probing race => exact ((Sound.probing hp).1 hsound).unstopped
    | hosting => exact ((Sound.hosting hp).1 hsound).unstopped
    | launching => exact absurd h (not_startsQuitting_launching hp)
    | reviving => exact absurd h (not_startsQuitting_reviving hp)
    | finished => exact absurd h (not_startsQuitting_finished hp)
  obtain ⟨ms, hw, hm, hesc, hend, hle, hge, hnone⟩ :=
    WindsDown.quit (s := s₁) (by rw [about.shutdown]; exact hstopped)
  have hdeeds : s₁.world.deeds = (o.state k).world.deeds := by
    obtain he | ⟨n, hn, he⟩ := about.record
    · rw [World.deeds, he, World.deeds]
    · rw [World.deeds, he, World.deeds]
      rcases hn with rfl | rfl <;> exact List.filter_cons_of_neg Bool.false_ne_true
  have hstart : (s₁.world.note (.quitRequested s₁.machine.state)).deeds =
      ((o.state k).world.now, .note (.quitRequested (o.state k).machine.state)) ::
        (o.state k).world.deeds := by
    rw [← hdeeds, ← about.now, ← about.machine]
    rfl
  rw [about.now, about.shutdown, o.grace_eq] at hesc hge
  rw [about.now] at hle hnone
  rw [about.backend] at hm hnone
  refine ⟨ms, s₁.quit.world.now, ⟨s₁.world.note (.quitRequested s₁.machine.state), about.now,
    about.children, hstart, ?_⟩, ?_, hm, fun m hmem => ?_, hw.alive, hesc, ?_, hle, hge, hnone⟩
  · rw [eq]
    exact hw
  · rw [eq, hw.deeds, hstart]
  · obtain ⟨b, -, hb⟩ := Option.map_eq_some_iff.1 (hm m hmem)
    rw [← hb]
    rfl
  · rw [eq]
    exact hend

/-- What a quit does to the world is to signal. -/
theorem ending_of_startsQuitting (h : (o.state k).StartsQuitting) {e : Event}
    (he : e ∈ o.news k) (hd : e.isDeed = true) : e.isEnding = true := by
  obtain ⟨ms, t, hq⟩ := quitEnds h
  obtain ⟨new, htrace, hacts⟩ := (o.stepped k).account.world.record
  rw [← hacts, mem_actsOf] at he
  obtain ⟨-, time, hmem⟩ := he
  have hnew : (new.filter fun e => e.2.isDeed) = ms.map Sending.deed ++
      [((o.state k).world.now, .note (.quitRequested (o.state k).machine.state))] := by
    have hdeeds := hq.deeds
    rw [World.deeds, htrace, List.filter_append, List.append_cons] at hdeeds
    exact List.append_cancel_right hdeeds
  have hmem : (time, e) ∈ new.filter fun e => e.2.isDeed := List.mem_filter.2 ⟨hmem, hd⟩
  rw [hnew, List.mem_append, List.mem_map, List.mem_singleton] at hmem
  rcases hmem with ⟨m, -, hm⟩ | hm
  · rw [show e = .signal m.handle.child m.signal from (congrArg Prod.snd hm).symm]
    rfl
  · rw [show e = .note (.quitRequested (o.state k).machine.state) from congrArg Prod.snd hm]
    rfl

variable (o)

end Opening
end DesktopHost
