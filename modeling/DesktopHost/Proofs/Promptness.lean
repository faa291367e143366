import DesktopHost.Proofs.FirstSignal
import DesktopHost.Session.Step

/-!
The acts of a session take no time, and leave nothing overdue but the first lines of a new backend.
-/

set_option autoImplicit false

namespace DesktopHost

namespace World

/-- Nothing is overdue, apart from lines. -/
def Prompt (w : World) : Prop := ∀ d ∈ Due.upTo w.now w.agenda, d.isLine = true

/-- From `w` to `w'` no time has passed, and nothing has become overdue but lines. -/
structure AtOnce (w w' : World) : Prop where
  now : w'.now = w.now
  due : ∀ d ∈ Due.upTo w.now w'.agenda, d ∈ Due.upTo w.now w.agenda ∨ d.isLine = true

variable {w w' : World}

theorem AtOnce.refl (w : World) : AtOnce w w := ⟨rfl, fun _ hd => .inl hd⟩

theorem AtOnce.trans {a b c : World} (h : AtOnce a b) (h' : AtOnce b c) : AtOnce a c := by
  refine ⟨h'.now.trans h.now, fun d hd => ?_⟩
  rw [← h.now] at hd
  rcases h'.due d hd with hd | hd
  · rw [h.now] at hd
    exact h.due d hd
  · exact .inr hd

theorem AtOnce.of_eq (hn : w'.now = w.now) (ha : w'.agenda = w.agenda) : AtOnce w w' :=
  ⟨hn, fun d hd => .inl (by rwa [ha] at hd)⟩

theorem Watched.atOnce (h : w.Watched w') : w.AtOnce w' := .of_eq h.now h.agenda

theorem atOnce_emit (w : World) (e : Event) : w.AtOnce (w.emit e) := .of_eq rfl rfl

theorem Prompt.atOnce (h : w.Prompt) (ha : w.AtOnce w') : w'.Prompt := by
  intro d hd
  rw [ha.now] at hd
  exact (ha.due d hd).elim (h d) id

theorem prompt_advanceTo (w : World) {t : Nat} (h : w.now ≤ t) : (w.advanceTo t).Prompt := by
  intro d hd
  rw [advanceTo_now, advanceTo_agenda, Nat.max_eq_right h,
    show w.agenda.dropWhile (fun d => decide (d.time ≤ t)) = Due.beyond t w.agenda from rfl,
    Due.upTo_beyond_of_le (Nat.le_refl t)] at hd
  cases hd

theorem Prompt.advanceTo (h : w.Prompt) (t : Nat) : (w.advanceTo t).Prompt := by
  rcases Nat.le_total w.now t with hle | hle
  · exact w.prompt_advanceTo hle
  · intro d hd
    rw [advanceTo_now, advanceTo_agenda, Nat.max_eq_left hle] at hd
    exact h d (Due.upTo_beyond_subset t _ _ hd)

theorem isLine_linesDue (now i : Nat) (stream : StreamKind) (chunks : Option (List Chunk)) :
    ∀ d ∈ linesDue now i stream chunks, d.isLine = true := by
  intro d hd
  obtain ⟨l, -, rfl⟩ := List.mem_map.1 hd
  rfl

theorem atOnce_spawnBackend (w : World) (l : Launch) (markers : List String) :
    w.AtOnce (w.spawnBackend l markers).1 := by
  cases hs : w.spawnBackend l markers with
  | mk w' res =>
    cases res with
    | ok h =>
      obtain ⟨-, hnow, -, others, hagenda, hothers⟩ := spawnBackend_ok hs
      refine ⟨hnow, fun d hd => ?_⟩
      dsimp only at hd
      rw [hagenda, Due.mem_upTo_insertAll, Due.mem_upTo_insertAll, List.mem_append] at hd
      rcases hd with (hd | ⟨hd, hle⟩) | ⟨hd | hd, -⟩
      · exact .inl hd
      · have := (hothers d hd).1
        omega
      · exact .inr (isLine_linesDue _ _ _ _ d hd)
      · exact .inr (isLine_linesDue _ _ _ _ d hd)
    | error p =>
      unfold spawnBackend at hs
      split at hs
      · split at hs
        · next w₁ f hw =>
          cases hs
          unfold spawn at hw
          dsimp only at hw
          split at hw <;> cases hw
          exact .of_eq rfl rfl
        · cases hs
      · cases hs
        exact w.atOnce_emit _

end World

namespace Session

variable (s : Session)

theorem atOnce_note (n : Note) : s.world.AtOnce (s.note n).world := s.world.atOnce_emit _

theorem atOnce_moveTo (t : LifecycleState) : s.world.AtOnce (s.moveTo t).world := by
  unfold moveTo
  split <;> exact World.atOnce_emit _ _

theorem atOnce_markFailed : s.world.AtOnce s.markFailed.world := by
  unfold markFailed
  split
  · exact World.atOnce_emit _ _
  · exact .refl _

theorem atOnce_showProblem (p : Problem) : s.world.AtOnce (s.showProblem p).world := by
  unfold showProblem
  split
  · exact .refl _
  · next d _ =>
    have h := s.world.showDialog_frame d
    split <;> next hd => rw [hd] at h; exact .of_eq h.2.1 h.1

theorem atOnce_failWith (p : Problem) : s.world.AtOnce (s.failWith p).world :=
  ((s.atOnce_note _).trans (atOnce_markFailed _)).trans (atOnce_showProblem _ p)

theorem atOnce_openWindow : s.world.AtOnce s.openWindow.world := by
  have hcreate : s.world.AtOnce s.createWindow.1.world := by
    change s.world.AtOnce (s.window.create s.world s.targetUrl).1
    unfold WindowHost.create
    split
    · exact World.atOnce_emit _ _
    · have h := s.world.openWindow_frame s.targetUrl
      split <;> next hw => rw [hw] at h; exact .of_eq h.2.1 h.1
  unfold openWindow
  split
  · next s₁ hc =>
    rw [hc] at hcreate
    have hrun : s₁.world.AtOnce s₁.markRunning.world := by
      unfold markRunning
      split
      · exact atOnce_moveTo _ _
      · exact .refl _
    exact (hcreate.trans hrun).trans (atOnce_note _ _)
  · next hc => rw [hc] at hcreate; exact hcreate
  · next hc => rw [hc] at hcreate; exact hcreate.trans (atOnce_note _ _)

theorem atOnce_closeWindow : s.world.AtOnce s.closeWindow.world := by
  change s.world.AtOnce (if s.window.isOpen then s.world.note .windowClosed else s.world)
  split
  · exact World.atOnce_emit _ _
  · exact .refl _

theorem atOnce_backendExited (r : ExitReport) : s.world.AtOnce (s.backendExited r).world := by
  have hjudge (s : Session) (b : Handle) : s.world.AtOnce (s.judgeExit b r).world := by
    unfold judgeExit exitCleanly
    split
    · exact atOnce_note _ _
    · split
      · refine (s.atOnce_note (.exitedCleanly b.pid s.machine.state)).trans ?_
        split
        · exact atOnce_markFailed _
        · exact atOnce_markFailed _
        · exact .refl _
      · exact atOnce_failWith _ _
  unfold backendExited
  split
  · exact .refl _
  · exact hjudge s.release _

theorem atOnce_startCycle : s.world.AtOnce s.startCycle.world := by
  unfold startCycle
  split
  · exact atOnce_note _ _
  · next m _ =>
    refine ((s.withMachine m).atOnce_note (.cycleBegun m.cycle)).trans ?_
    generalize (s.withMachine m).note (.cycleBegun m.cycle) = s₁
    have hs := s₁.world.atOnce_spawnBackend s₁.launch s₁.config.readiness.markers
    unfold spawnBackend
    split
    · next hw => rw [hw] at hs; exact hs.trans (atOnce_failWith (s₁.inWorld _) _)
    · next hw => rw [hw] at hs; exact hs.trans (atOnce_moveTo ((s₁.inWorld _).hold _) _)

end Session
end DesktopHost
