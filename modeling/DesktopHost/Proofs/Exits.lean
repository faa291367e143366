import DesktopHost.Proofs.Promptness

/-!
The first word about an exit is the last. What has once been seen of a child's exit is what will
be seen of it ever after, whatever else happens in the world and whatever a session that is not
over does in it.
-/

set_option autoImplicit false

namespace DesktopHost

namespace Child

variable {c : Child} {r : ExitReport}

theorem visibleExit_publish (h : c.visibleExit = some r) (code : Option Int32) :
    (c.publish code).visibleExit = some r := by
  unfold visibleExit at h
  unfold publish
  cases hp : c.published with
  | some r' =>
    rw [hp] at h
    simpa [visibleExit, hp] using h
  | none =>
    rw [hp] at h
    cases hw : c.watched with
    | true => rw [hw] at h; cases h
    | false =>
      rw [hw] at h
      simpa [visibleExit, hp, hw] using h

theorem visibleExit_unwatched (h : c.visibleExit = some r) :
    { c with watched := false }.visibleExit = some r := by
  unfold visibleExit at h ⊢
  cases hp : c.published with
  | some r' => rw [hp] at h; exact h
  | none =>
    rw [hp] at h
    cases hw : c.watched with
    | true => rw [hw] at h; cases h
    | false => rw [hw] at h; exact h

theorem visibleExit_touch (h : c.visibleExit = some r) (i : Nat) (d : Due) :
    (d.touch i c).visibleExit = some r := by
  obtain ⟨time, what⟩ := d
  unfold Due.touch
  cases what with
  | exit j code => dsimp only; split; exacts [visibleExit_publish h code, h]
  | ownExit j code => dsimp only; split; exacts [visibleExit_publish h code, h]
  | unwatch j => dsimp only; split; exacts [visibleExit_unwatched h, h]
  | line j stream text =>
    cases stream with
    | stderr => exact h
    | stdout => dsimp only; split <;> exact h
  | _ => exact h

end Child

namespace World

/-- Every exit that can be seen in `w` is seen the same way in `w'`. -/
def Lasting (w w' : World) : Prop :=
  ∀ i r, w.visibleExit i = some r → w'.visibleExit i = some r

namespace Lasting

theorem refl (w : World) : Lasting w w := fun _ _ h => h

theorem trans {a b c : World} (h : Lasting a b) (h' : Lasting b c) : Lasting a c :=
  fun i r hr => h' i r (h i r hr)

theorem of_children {w w' : World} (h : w'.children = w.children) : Lasting w w' := by
  intro i r hr
  simpa only [visibleExit, child?, h] using hr

end Lasting

variable (w : World)

theorem lasting_updateChild (j : Nat) {f : Child → Child}
    (hf : ∀ c r, c.visibleExit = some r → (f c).visibleExit = some r) :
    w.Lasting (w.updateChild j f) := by
  intro i r hr
  obtain ⟨c, hc, hv⟩ := Option.bind_eq_some_iff.1 hr
  rw [visibleExit, child?_updateChild, hc]
  split
  · exact hf c r hv
  · exact hv

theorem lasting_publish (i : Nat) (code : Option Int32) : w.Lasting (w.publish i code) :=
  w.lasting_updateChild i fun _ _ h => Child.visibleExit_publish h code

theorem lasting_advanceTo (t : Nat) : w.Lasting (w.advanceTo t) := by
  intro i r hr
  obtain ⟨c, hc, hv⟩ := Option.bind_eq_some_iff.1 hr
  rw [visibleExit_advanceTo, hc, Option.bind_some]
  clear hc hr
  generalize Due.upTo t w.agenda = ds
  induction ds generalizing c with
  | nil => exact hv
  | cons d rest ih => exact ih (d.touch i c) (Child.visibleExit_touch hv i d)

theorem lasting_receive {v : World} {r : Received} (h : w.receive = (v, r)) : w.Lasting v := by
  unfold receive at h
  split at h
  · cases h
    exact .of_children rfl
  · split at h <;> cases h <;> exact .refl w

theorem lasting_showDialog (d : Dialog) : w.Lasting (w.showDialog d).1 := by
  unfold showDialog
  dsimp only [emit]
  split <;> exact .of_children rfl

theorem lasting_openWindow (url : String) : w.Lasting (w.openWindow url).1 := by
  unfold openWindow
  dsimp only
  split <;> exact .of_children rfl

theorem lasting_append {v : World} {new : Option Child} (h : v.children = w.children ++ [new]) :
    w.Lasting v := by
  intro i r hr
  obtain ⟨c, hc, hv⟩ := Option.bind_eq_some_iff.1 hr
  rw [visibleExit, child?, h, List.getElem?_append_left (lt_of_child? hc)]
  exact hr

theorem lasting_spawn (l : Launch) : w.Lasting (w.spawn l).1 := by
  unfold spawn
  dsimp only
  split <;> exact w.lasting_append rfl

theorem lasting_spawnBackend (l : Launch) (markers : List String) :
    w.Lasting (w.spawnBackend l markers).1 := by
  have hs := w.lasting_spawn l
  unfold spawnBackend
  split
  · split
    · next hw => rw [hw] at hs; exact hs.trans (.of_children rfl)
    · next w₁ i hw =>
      rw [hw] at hs
      refine hs.trans ?_
      unfold attachReaders
      split
      · exact .refl w₁
      · next c _ =>
        have hu := w₁.lasting_updateChild i (f := fun d => { d with latch := .new markers })
          fun _ _ h => h
        exact hu.trans (.of_children rfl)
  · exact .of_children rfl

end World

namespace Session

variable (s : Session)

theorem lasting_moveTo (t : LifecycleState) : s.world.Lasting (s.moveTo t).world := by
  unfold moveTo
  split <;> exact .of_children rfl

theorem lasting_markFailed : s.world.Lasting s.markFailed.world := by
  unfold markFailed
  split <;> exact .of_children rfl

theorem lasting_showProblem (p : Problem) : s.world.Lasting (s.showProblem p).world := by
  unfold showProblem
  split
  · exact .refl _
  · next d _ =>
    have h := s.world.lasting_showDialog d
    split <;> next hd => rw [hd] at h; exact h.trans (.of_children rfl)

theorem lasting_failWith (p : Problem) : s.world.Lasting (s.failWith p).world := by
  have h := lasting_markFailed (s.note (.lifecycleFailure p s.machine.state))
  exact (World.Lasting.of_children rfl).trans (h.trans (lasting_showProblem _ p))

theorem lasting_createWindow : s.world.Lasting s.createWindow.1.world := by
  have h := s.world.lasting_openWindow s.targetUrl
  change s.world.Lasting (s.window.create s.world s.targetUrl).1
  unfold WindowHost.create
  split
  · exact .of_children rfl
  · split <;> next hw => rw [hw] at h; exact h

theorem lasting_openWindow : s.world.Lasting s.openWindow.world := by
  have h := s.lasting_createWindow
  unfold openWindow
  split
  · next s₁ hc =>
    rw [hc] at h
    refine h.trans ?_
    unfold markRunning
    split
    · exact (s₁.lasting_moveTo .running).trans (.of_children rfl)
    · exact .of_children rfl
  · next hc => rw [hc] at h; exact h
  · next hc => rw [hc] at h; exact h.trans (.of_children rfl)

theorem lasting_backendExited (r : ExitReport) : s.world.Lasting (s.backendExited r).world := by
  unfold backendExited
  split
  · exact .refl _
  · next b _ =>
    unfold judgeExit
    split
    · exact .of_children rfl
    · split
      · have hn (n : Note) : s.world.Lasting (s.release.note n).world := .of_children rfl
        unfold exitCleanly
        split
        · exact (hn _).trans (lasting_markFailed _)
        · exact (hn _).trans (lasting_markFailed _)
        · exact hn _
      · exact s.release.lasting_failWith _

theorem lasting_startCycle : s.world.Lasting s.startCycle.world := by
  unfold startCycle
  split
  · exact .of_children rfl
  · next m _ =>
    let begun := (s.withMachine m).note (.cycleBegun m.cycle)
    have hb : s.world.Lasting begun.world := .of_children rfl
    have h := hb.trans (begun.world.lasting_spawnBackend begun.launch begun.config.readiness.markers)
    change s.world.Lasting begun.spawnBackend.world
    unfold spawnBackend
    split
    · next w p hw =>
      rw [hw] at h
      exact h.trans (lasting_failWith (begun.inWorld w) p)
    · next w b hw =>
      rw [hw] at h
      exact h.trans (lasting_moveTo ((begun.inWorld w).hold b) .probing)

variable {s} {s' : Session}

theorem lasting_probeReadiness {race : Option Race} (hs : s.probeReadiness race = some s') :
    s.world.Lasting s'.world := by
  unfold probeReadiness at hs
  split at hs
  · obtain ⟨b, -, rfl⟩ := Option.map_eq_some_iff.1 hs
    exact .of_children (World.watched_startCheck s.world).children
  · next race =>
    split at hs
    · cases hs
    · next hr =>
      cases hs
      exact .of_children (Race.watched_of_moved hr).children
    · next w signal hr =>
      cases hs
      have h : s.world.Lasting w := .of_children (Race.watched_of_resolved hr).children
      let noted := (s.inWorld w).note (.readinessResolved signal (w.now - race.started))
      have hn : w.Lasting noted.world := .of_children rfl
      exact (h.trans hn).trans ((noted.lasting_moveTo .ready).trans (lasting_openWindow _))

/-- The first look of an activation judges the exit it sees, and nothing else. -/
theorem lasting_activate (s : Session) : s.world.Lasting s.activate.world := by
  unfold activate
  split
  · exact .of_children rfl
  · split
    · exact s.lasting_backendExited _
    · exact .refl _

/-- Until the session is over, no step changes an exit that can be seen. -/
theorem lasting_step (hs : s.step = some s') (h : ∀ t, s'.phase ≠ .finished t) :
    s.world.Lasting s'.world := by
  have ended {v : Session} (he : v.quit = s') : s.world.Lasting s'.world :=
    absurd (by rw [← he]; rfl) (h v.quit.world.now)
  unfold step at hs
  split at hs
  · next hr =>
    cases hs
    unfold react at hr
    split at hr
    · cases hr
      exact s.lasting_startCycle
    · unfold probe at hr
      split at hr
      · next r _ =>
        cases hr
        exact s.lasting_backendExited r
      · split at hr
        · exact ended (Option.some.inj hr)
        · exact ended (Option.some.inj hr)
        · next hw =>
          cases hr
          exact (World.lasting_receive _ hw).trans (.of_children rfl)
        · exact lasting_probeReadiness hr
    · unfold host at hr
      split at hr
      · cases hr
        exact absurd rfl (h _)
      · split at hr
        · next r _ =>
          cases hr
          exact s.lasting_backendExited r
        · split at hr
          · next w c hw =>
            have hl := World.lasting_receive _ hw
            cases hr
            cases c with
            | activate => exact hl.trans (lasting_activate (s.inWorld w))
            | quit => exact ended rfl
            | windowClosed =>
              have hc : w.Lasting (s.inWorld w).closeWindow.world := by
                change w.Lasting (if s.window.isOpen then w.note .windowClosed else w)
                split <;> exact .of_children rfl
              by_cases hq : s.config.quitOnLastWindowClosed = true
              · exact ended (v := (s.inWorld w).closeWindow) (if_pos hq).symm
              · rw [show (s.inWorld w).handleCommand .windowClosed = (s.inWorld w).closeWindow from
                  if_neg hq]
                exact hl.trans hc
          · exact ended (Option.some.inj hr)
          · cases hr
    · cases hr
      unfold revive
      split
      · exact s.lasting_openWindow
      · exact lasting_startCycle (s.note .restarting)
    · cases hr
  · unfold wait at hs
    split at hs
    · cases hs
    · obtain ⟨t, -, rfl⟩ := Option.map_eq_some_iff.1 hs
      exact s.world.lasting_advanceTo t

end Session
end DesktopHost
