import DesktopHost.Session.Step

/-!
What the acts of a session leave alone: its configuration, its phase, and the number of commands
that are still to be handled.
-/

set_option autoImplicit false

namespace DesktopHost

theorem World.receive_command {w w' : World} {c : Command}
    (h : w.receive = (w', .command c)) : w'.commandsLeft < w.commandsLeft := by
  unfold World.receive at h
  split at h
  · next hq =>
    cases h
    simp only [World.commandsLeft, hq, List.length_cons]
    omega
  · split at h <;> cases h

theorem World.receive_closed {w w' : World} (h : w.receive = (w', .closed)) : w' = w := by
  unfold World.receive at h
  split at h
  · cases h
  · split at h <;> cases h
    rfl

theorem World.commandsLeft_eq {w w' : World} (h : w'.agenda = w.agenda ∧ w'.now = w.now ∧
    w'.queue = w.queue) : w'.commandsLeft = w.commandsLeft := by
  simp only [World.commandsLeft, h.1, h.2.2]

namespace Session

/-- An act that changes neither where a session stands nor what it holds, and handles no command. -/
structure Keeps (s s' : Session) : Prop where
  config : s'.config = s.config
  phase : s'.phase = s.phase
  backend : s'.backend = s.backend
  commandsLeft : s'.world.commandsLeft = s.world.commandsLeft

namespace Keeps

theorem refl (s : Session) : Keeps s s := ⟨rfl, rfl, rfl, rfl⟩

theorem trans {a b c : Session} (h : Keeps a b) (h' : Keeps b c) : Keeps a c :=
  ⟨h'.config.trans h.config, h'.phase.trans h.phase, h'.backend.trans h.backend,
    h'.commandsLeft.trans h.commandsLeft⟩

end Keeps

variable (s : Session)

theorem inWorld_keeps (w : World) (h : w.commandsLeft = s.world.commandsLeft) :
    Keeps s (s.inWorld w) := ⟨rfl, rfl, rfl, h⟩

theorem note_keeps (n : Note) : Keeps s (s.note n) := ⟨rfl, rfl, rfl, rfl⟩

theorem moveTo_keeps (next : LifecycleState) : Keeps s (s.moveTo next) := by
  unfold moveTo; split <;> exact ⟨rfl, rfl, rfl, rfl⟩

theorem markFailed_keeps : Keeps s s.markFailed := by
  unfold markFailed; split <;> exact ⟨rfl, rfl, rfl, rfl⟩

theorem showProblem_keeps (p : Problem) : Keeps s (s.showProblem p) := by
  unfold showProblem
  split
  · exact .refl s
  · next d _ =>
    have h := World.commandsLeft_eq (s.world.showDialog_frame d)
    split <;> next hd => rw [hd] at h; exact ⟨rfl, rfl, rfl, h⟩

theorem failWith_keeps (p : Problem) : Keeps s (s.failWith p) :=
  ((s.note_keeps _).trans (markFailed_keeps _)).trans (showProblem_keeps _ _)

theorem createWindow_keeps : Keeps s s.createWindow.1 :=
  ⟨rfl, rfl, rfl, s.window.create_commandsLeft s.world s.targetUrl⟩

theorem markRunning_keeps : Keeps s s.markRunning := by
  unfold markRunning
  split
  · exact moveTo_keeps _ _
  · exact .refl s

theorem openWindow_keeps : Keeps s s.openWindow := by
  have h := s.createWindow_keeps
  unfold openWindow
  split
  · next hc => rw [hc] at h; exact (h.trans (markRunning_keeps _)).trans (note_keeps _ _)
  · next hc => rw [hc] at h; exact h
  · next hc => rw [hc] at h; exact h.trans (note_keeps _ _)

theorem closeWindow_keeps : Keeps s s.closeWindow :=
  ⟨rfl, rfl, rfl, s.window.close_commandsLeft s.world⟩

theorem exitCleanly_keeps : Keeps s s.exitCleanly := by
  unfold exitCleanly
  split
  · exact markFailed_keeps s
  · exact markFailed_keeps s
  · exact .refl s

theorem judgeExit_keeps (h : Handle) (r : ExitReport) : Keeps s (s.judgeExit h r) := by
  unfold judgeExit
  split
  · exact note_keeps _ _
  · split
    · exact (note_keeps _ _).trans (exitCleanly_keeps _)
    · exact failWith_keeps _ _

theorem backendExited_keeps (r : ExitReport) : Keeps s.release (s.backendExited r) := by
  unfold backendExited
  split
  · next h => exact ⟨rfl, rfl, h, rfl⟩
  · exact judgeExit_keeps _ _ _

theorem beginShutdown_keeps : Keeps s s.beginShutdown := by
  unfold beginShutdown
  split
  · exact .refl s
  · exact moveTo_keeps _ _

theorem endShutdown_keeps : Keeps s s.endShutdown := by
  unfold endShutdown
  split
  · exact moveTo_keeps _ _
  · exact .refl s

theorem stopBackend_commandsLeft_le : s.stopBackend.world.commandsLeft ≤ s.world.commandsLeft := by
  unfold stopBackend
  split
  · exact Nat.le_refl _
  · next h _ => exact s.shutdown.stop_commandsLeft_le s.world h

theorem quit_commandsLeft_le : s.quit.world.commandsLeft ≤ s.world.commandsLeft := by
  have h₁ := ((s.note_keeps (.quitRequested s.machine.state)).trans
    (beginShutdown_keeps _)).commandsLeft
  have h₂ := (s.note (.quitRequested s.machine.state)).beginShutdown.stopBackend_commandsLeft_le
  have h₃ := ((s.note (.quitRequested s.machine.state)).beginShutdown.stopBackend
    ).endShutdown_keeps.commandsLeft
  have h₄ : s.quit.world.commandsLeft = ((s.note (.quitRequested
    s.machine.state)).beginShutdown.stopBackend.endShutdown).world.commandsLeft := rfl
  omega

theorem spawnBackend_keeps : s.spawnBackend.config = s.config ∧
    s.spawnBackend.world.commandsLeft = s.world.commandsLeft := by
  have h := s.world.spawnBackend_commandsLeft s.launch s.config.readiness.markers
  unfold spawnBackend
  split
  · next w p hw =>
    rw [hw] at h
    have hk := (s.inWorld_keeps w h).trans (failWith_keeps _ p)
    exact ⟨hk.config, hk.commandsLeft⟩
  · next w b hw =>
    rw [hw] at h
    have hk := ((s.inWorld w).hold b).moveTo_keeps .probing
    exact ⟨hk.config, hk.commandsLeft.trans h⟩

theorem startCycle_keeps : s.startCycle.config = s.config ∧
    s.startCycle.world.commandsLeft = s.world.commandsLeft := by
  unfold startCycle
  split
  · exact ⟨rfl, rfl⟩
  · exact spawnBackend_keeps _

/-- A cycle either fails at once or waits for readiness. -/
theorem startCycle_phase : s.startCycle.phase = .hosting ∨ s.startCycle.phase = .probing none := by
  unfold startCycle
  split
  · exact .inl rfl
  · unfold spawnBackend
    split
    · exact .inl rfl
    · exact .inr rfl

end Session
end DesktopHost
