import DesktopHost.Proofs.Moves

/-!
What the end of a startup does not depend on. To take a command that means nothing yet, or to make
a health check, changes neither when an exit will be seen nor when a quit will be due; and a race
ends as it would without the commands that are taken meanwhile.
-/

set_option autoImplicit false

namespace DesktopHost

namespace World

/-- A command to quit is in the queue, or nobody is left who could send one. -/
def QuitDue (w : World) : Prop := .quit ∈ w.queue ∨ w.handleHeld = false

/-- When the exit of child `i` will first be seen. -/
noncomputable def exitTime (w : World) (i : Nat) : ℕ∞ :=
  w.firstTime fun v => (v.visibleExit i).isSome = true

/-- When a quit will first be due. -/
noncomputable def quitTime (w : World) : ℕ∞ := w.firstTime QuitDue

variable {w v : World}

/-- What is met brings the same commands to both, if both can still receive them. -/
theorem foldl_meet_queue (ds : List Due) (hh : v.handleHeld = w.handleHeld)
    (hl : v.listening = w.listening) : ∃ sent,
    (ds.foldl meet w).queue = w.queue ++ sent ∧ (ds.foldl meet v).queue = v.queue ++ sent ∧
      (ds.foldl meet v).handleHeld = (ds.foldl meet w).handleHeld := by
  induction ds generalizing w v with
  | nil => exact ⟨[], (List.append_nil _).symm, (List.append_nil _).symm, hh⟩
  | cons d rest ih =>
    obtain ⟨sent, hw, hv, hheld⟩ := ih (w := w.meet d) (v := v.meet d)
      (by rw [(meet_frame v d).1, (meet_frame w d).1, hh])
      (by rw [(meet_frame v d).2.1, (meet_frame w d).2.1, hl])
    refine ⟨d.sent w.handleHeld w.listening ++ sent, ?_, ?_, hheld⟩
    · rw [List.foldl_cons, hw, meet_queue, List.append_assoc]
    · rw [List.foldl_cons, hv, meet_queue, hh, hl, List.append_assoc]

theorem handleHeld_foldl_meet (ds : List Due) (h : w.handleHeld = false) :
    (ds.foldl meet w).handleHeld = false := by
  induction ds generalizing w with
  | nil => exact h
  | cons d rest ih =>
    refine ih (w := w.meet d) ?_
    rw [(meet_frame w d).1, h]
    unfold Due.leavesHeld
    split <;> rfl

/-- A quit that is due goes on to be due. -/
theorem QuitDue.advanceTo (h : w.QuitDue) (t : Nat) : (w.advanceTo t).QuitDue := by
  rcases h with hq | hh
  · obtain ⟨sent, hqueue, -⟩ := foldl_meet_queue (w := w.withAgenda (Due.beyond t w.agenda))
      (Due.upTo t w.agenda) rfl rfl
    have hmem : Command.quit ∈ w.queue ++ sent := List.mem_append_left _ hq
    exact .inl (hqueue ▸ hmem)
  · exact .inr (handleHeld_foldl_meet (w := w.withAgenda (Due.beyond t w.agenda)) _ hh)

theorem exitTime_of_visible {i : Nat} (h : (w.visibleExit i).isSome = true) :
    w.exitTime i = w.now :=
  w.firstTime_of_advanceTo_now (w.visibleExit_mono h w.now)

theorem quitTime_of_quitDue (h : w.QuitDue) : w.quitTime = w.now :=
  w.firstTime_of_advanceTo_now (h.advanceTo w.now)

theorem visibleExit_foldl_meet (i : Nat) {ds : List Due} (h : ∀ d ∈ ds, d.isLine = true) :
    (ds.foldl meet w).visibleExit i = w.visibleExit i := by
  induction ds generalizing w with
  | nil => rfl
  | cons d rest ih =>
    rw [List.foldl_cons, ih fun x hx => h x (List.mem_cons_of_mem _ hx), visibleExit, visibleExit,
      child?_meet, Option.bind_map]
    exact congrArg _ (funext fun c => c.touch_line i (h d List.mem_cons_self))

theorem quitDue_foldl_meet {ds : List Due} (h : ∀ d ∈ ds, d.isLine = true) :
    (ds.foldl meet w).QuitDue ↔ w.QuitDue := by
  induction ds generalizing w with
  | nil => exact Iff.rfl
  | cons d rest ih =>
    rw [List.foldl_cons, ih fun x hx => h x (List.mem_cons_of_mem _ hx), QuitDue, QuitDue,
      meet_queue, (meet_frame w d).1]
    have hd := h d List.mem_cons_self
    obtain ⟨time, what⟩ := d
    cases what with
    | line j stream text => rw [Due.sent, List.append_nil, Due.leavesHeld]
    | _ => cases hd

/-- Where nothing is overdue but lines, an exit that is not seen yet will be seen later. -/
theorem Prompt.now_lt_exitTime (h : w.Prompt) {i : Nat} (hx : w.visibleExit i = none) :
    (w.now : ℕ∞) < w.exitTime i := by
  refine w.now_lt_firstTime fun hv => ?_
  have hline := visibleExit_foldl_meet (w := w.withAgenda (Due.beyond w.now w.agenda)) i h
  rw [show (w.advanceTo w.now).visibleExit i = w.visibleExit i from hline, hx] at hv
  cases hv

theorem Prompt.now_lt_quitTime (h : w.Prompt) (hq : ¬w.QuitDue) : (w.now : ℕ∞) < w.quitTime :=
  w.now_lt_firstTime fun hd =>
    hq ((quitDue_foldl_meet (w := w.withAgenda (Due.beyond w.now w.agenda)) h).1 hd)

/-- From `w` to `v` nothing has changed for the children, and no quit has been sent or taken. -/
structure Unmoved (w v : World) : Prop where
  now : v.now = w.now
  agenda : v.agenda = w.agenda
  children : v.children = w.children
  handleHeld : v.handleHeld = w.handleHeld
  listening : v.listening = w.listening
  quit : .quit ∈ v.queue ↔ .quit ∈ w.queue

theorem Watched.unmoved (h : w.Watched v) : w.Unmoved v :=
  ⟨h.now, h.agenda, h.children, h.handleHeld, h.listening, by rw [h.queue]⟩

theorem unmoved_ignore {c : Command} (h : w.receive = (v, .command c)) (hc : c ≠ .quit) (n : Note) :
    w.Unmoved (v.note n) := by
  unfold receive at h
  split at h
  · next c' rest hq =>
    cases h
    refine ⟨rfl, rfl, rfl, rfl, rfl, ?_⟩
    rw [note_queue, hq, List.mem_cons]
    exact (or_iff_right fun h => hc h.symm).symm
  · split at h <;> cases h

theorem Unmoved.exitTime (h : w.Unmoved v) (i : Nat) : v.exitTime i = w.exitTime i := by
  refine (w.firstTime_congr h.now fun t => ?_).symm
  rw [visibleExit, visibleExit, child?_advanceTo, child?_advanceTo, h.agenda]
  simp only [child?, h.children]

theorem Unmoved.quitTime (h : w.Unmoved v) : v.quitTime = w.quitTime := by
  refine (w.firstTime_congr h.now fun t => ?_).symm
  obtain ⟨sent, hw, hv, hheld⟩ := foldl_meet_queue (w := w.withAgenda (Due.beyond t w.agenda))
    (v := v.withAgenda (Due.beyond t v.agenda)) (Due.upTo t w.agenda) h.handleHeld h.listening
  -- both meet the same agenda, so the same is sent to both
  have hw' : (w.advanceTo t).queue = w.queue ++ sent := hw
  have hv' : (v.advanceTo t).queue = v.queue ++ sent := by
    rw [advanceTo_eq, h.agenda]
    rw [h.agenda] at hv
    exact hv
  have hheld' : (v.advanceTo t).handleHeld = (w.advanceTo t).handleHeld := by
    rw [advanceTo_eq, h.agenda]
    rw [h.agenda] at hheld
    exact hheld
  rw [QuitDue, QuitDue, hw', hv', hheld', List.mem_append, List.mem_append, h.quit]

/-- To wait until something is due brings no exit forward. -/
theorem exitTime_advanceTo {a i : Nat}
    (h : ∀ t, w.now ≤ t → t < a → Due.upTo t w.agenda = []) (hx : w.visibleExit i = none) :
    (w.advanceTo a).exitTime i = w.exitTime i := by
  refine w.firstTime_advanceTo fun t ht hlt => ?_
  rw [w.advanceTo_of_upTo_nil (h t ht hlt),
    show (w.withClock (max w.now t)).visibleExit i = w.visibleExit i from rfl, hx]
  exact Bool.false_ne_true

/-- Nor a quit. -/
theorem times_advanceTo {a i : Nat} (h : ∀ t, w.now ≤ t → t < a → Due.upTo t w.agenda = [])
    (hx : w.visibleExit i = none) (hq : ¬w.QuitDue) :
    (w.advanceTo a).exitTime i = w.exitTime i ∧ (w.advanceTo a).quitTime = w.quitTime := by
  refine ⟨exitTime_advanceTo h hx, w.firstTime_advanceTo fun t ht hlt => ?_⟩
  rw [w.advanceTo_of_upTo_nil (h t ht hlt)]
  exact hq

/-- A race for child `i` sees no difference between `w` and `v`. -/
structure Alike (i : Nat) (w v : World) : Prop where
  now : v.now = w.now
  agenda : v.agenda = w.agenda
  health : v.health = w.health
  child : v.child? i = w.child? i

theorem Alike.note {i : Nat} (h : Alike i w v) (n : Note) : Alike i (w.note n) (v.note n) :=
  ⟨h.now, h.agenda, h.health, h.child⟩

theorem Alike.latchFired {i : Nat} (h : Alike i w v) : v.latchFired i = w.latchFired i := by
  rw [World.latchFired, World.latchFired, h.child]

theorem Alike.advanceTo {i : Nat} (h : Alike i w v) (t : Nat) :
    Alike i (w.advanceTo t) (v.advanceTo t) := by
  refine ⟨?_, ?_, ?_, ?_⟩
  · rw [advanceTo_now, advanceTo_now, h.now]
  · rw [advanceTo_agenda, advanceTo_agenda, h.agenda]
  · rw [health_advanceTo, health_advanceTo, h.health]
  · rw [child?_advanceTo, child?_advanceTo, h.child, h.agenda]

theorem Alike.startCheck {i : Nat} (h : Alike i w v) :
    Alike i w.startCheck.1 v.startCheck.1 ∧ v.startCheck.2 = w.startCheck.2 := by
  have hrest : Alike i { w.emit (.healthCall (w.checks + 1)) with
        checks := w.checks + 1, health := (nextOf .silent w.health).2 }
      { v.emit (.healthCall (v.checks + 1)) with
        checks := v.checks + 1, health := (nextOf .silent v.health).2 } :=
    ⟨h.now, h.agenda, by dsimp only; rw [h.health], h.child⟩
  unfold World.startCheck
  rw [h.health] at hrest ⊢
  dsimp only
  split
  · exact ⟨hrest, rfl⟩
  · exact ⟨hrest, by dsimp only [emit_now]; rw [h.now]⟩

end World

namespace Poll

variable {limits : ReadinessConfig} {w v : World} {i : Nat}

/-- The same progress, in worlds that a race for child `i` cannot tell apart. -/
inductive Progress.Alike (i : Nat) : Progress → Progress → Prop where
  | blocked : Alike i .blocked .blocked
  | moved {w v : World} (p : Poll) (h : w.Alike i v) : Alike i (.moved w p) (.moved v p)
  | done {w v : World} (o : PollOutcome) (h : w.Alike i v) : Alike i (.done w o) (.done v o)


theorem alike_check (limits : ReadinessConfig) (h : w.Alike i v) (attempts : Attempts) :
    (check limits w attempts).1.Alike i (check limits v attempts).1 ∧
      (check limits v attempts).2 = (check limits w attempts).2 := by
  obtain ⟨hworld, hanswer⟩ := h.startCheck
  refine ⟨hworld, ?_⟩
  simp only [check, hanswer, hworld.now]

/-- A poll steps the same way in both. -/
theorem alike_step (limits : ReadinessConfig) (h : w.Alike i v) (p : Poll) :
    Progress.Alike i (p.step limits w) (p.step limits v) := by
  unfold step
  rw [h.now]
  split
  · split
    · exact .blocked
    · exact .done _ h
    · dsimp only
      split
      · exact .done _ ((h.note _).note _)
      · rw [World.note_now, World.note_now, h.now]
        exact .moved _ (h.note _)
  · split
    · obtain ⟨hworld, hpoll⟩ := alike_check limits h p.attempts
      dsimp only
      rw [hpoll]
      exact .moved _ hworld
    · exact .blocked

end Poll

namespace Race

variable {limits : ReadinessConfig} {w v w' : World} {i : Nat} {r r' : Race}
  {signal : ReadinessSignal}

theorem run_of_resolved (h : r.step limits w = .resolved w' signal) :
    run limits w r = (w', signal) := by
  rw [run]
  split <;> simp_all

theorem run_of_moved (h : r.step limits w = .moved w' r') :
    run limits w r = run limits w' r' := by
  rw [run]
  split <;> simp_all

theorem run_of_blocked (h : r.step limits w = .blocked) :
    run limits w r = run limits (w.advanceTo (r.wake limits w)) r := by
  rw [run]
  split <;> simp_all

/-- The same progress, in worlds that a race for child `i` cannot tell apart. -/
inductive Progress.Alike (i : Nat) : Progress → Progress → Prop where
  | blocked : Alike i .blocked .blocked
  | moved {w v : World} (r : Race) (h : w.Alike i v) : Alike i (.moved w r) (.moved v r)
  | resolved {w v : World} (signal : ReadinessSignal) (h : w.Alike i v) :
    Alike i (.resolved w signal) (.resolved v signal)

theorem alike_resolve (h : w.Alike i v) (r : Race) (signal : ReadinessSignal) :
    Progress.Alike i (resolve w r signal) (resolve v r signal) := by
  unfold resolve
  rw [h.now]
  split
  · exact .resolved _ h
  · exact .resolved _ (h.note _)

theorem alike_step (limits : ReadinessConfig) (h : w.Alike r.child v) :
    Progress.Alike r.child (r.step limits w) (r.step limits v) := by
  have hpoll := Poll.alike_step limits h r.poll
  unfold step
  rw [h.latchFired, h.now]
  split
  · exact alike_resolve h r _
  · generalize r.poll.step limits w = p at hpoll
    generalize r.poll.step limits v = q at hpoll
    cases hpoll with
    | blocked =>
      dsimp only
      split
      · exact alike_resolve h r _
      · exact .blocked
    | moved p h => exact .moved _ h
    | done o h => exact alike_resolve h r _

/-- Two races end at one instant, with one signal. -/
def SameEnd (a b : World × ReadinessSignal) : Prop := a.1.now = b.1.now ∧ a.2 = b.2

/-- Races that cannot tell their worlds apart end the same way. -/
theorem sameEnd_run (h : w.Alike r.child v) : SameEnd (run limits v r) (run limits w r) := by
  fun_induction run limits w r generalizing v with
  | case1 w r w' signal hs =>
    have hstep := alike_step limits h
    rw [hs] at hstep
    generalize hv : r.step limits v = q at hstep
    cases hstep with
    | resolved _ h' =>
      rw [run_of_resolved hv]
      exact ⟨h'.now, rfl⟩
  | case2 w r w' r' hs ih =>
    have hstep := alike_step limits h
    rw [hs] at hstep
    obtain ⟨-, p, -, hr⟩ := step_eq_moved hs
    generalize hv : r.step limits v = q at hstep
    cases hstep with
    | moved _ h' =>
      rw [run_of_moved hv]
      refine ih ?_
      rw [hr]
      exact h'
  | case3 w r hs ih =>
    have hstep := alike_step limits h
    rw [hs] at hstep
    generalize hv : r.step limits v = q at hstep
    cases hstep with
    | blocked =>
      have hwake : r.wake limits v = r.wake limits w := by
        rw [wake, wake, World.nextDue?, World.nextDue?, h.agenda]
      rw [run_of_blocked hv, hwake]
      exact ih (h.advanceTo _)

theorem sameEnd_alone (h : w.Alike i v) : SameEnd (alone limits v i) (alone limits w i) := by
  obtain ⟨hworld, hpoll⟩ :=
    Poll.alike_check limits h (Attempts.new limits.maxAttempts).record
  have hrace : (start limits v i).2 = (start limits w i).2 := by
    simp only [start, Poll.start, hpoll, h.now]
  unfold alone
  rw [hrace]
  exact sameEnd_run (r := (start limits w i).2) hworld

/-- A race on its own takes no longer than the startup timeout. -/
theorem alone_le_timeout (limits : ReadinessConfig) (w : World) (i : Nat) :
    (alone limits w i).1.now ≤ w.now + limits.startupTimeout := by
  have hle : (alone limits w i).1.now ≤ w.now + sleepLength limits.startupTimeout := by
    rw [← Nat.cast_le (α := ℕ∞), (alone_times limits w i).1]
    exact min_le_of_right_le (min_le_right _ _)
  have hsleep : sleepLength limits.startupTimeout ≤ limits.startupTimeout := Nat.min_le_left _ _
  omega

/-- While the output gives no sign, a race goes on at least as long as its poll and its timeout. -/
theorem le_alone {a : Nat} (silent : ∀ t, w.now ≤ t → t < a → (w.advanceTo t).latchFired i = false)
    (polled : a ≤ (Poll.pollHealth limits w).1.now)
    (timeout : a ≤ w.now + sleepLength limits.startupTimeout) :
    a ≤ (alone limits w i).1.now := by
  have hpoll : a ≤ w.now + untilPolled limits w := by
    unfold untilPolled
    omega
  rw [← Nat.cast_le (α := ℕ∞), (alone_times limits w i).1]
  exact le_min (w.le_firstTime fun t ht hlt => Bool.eq_false_iff.1 (silent t ht hlt))
    (le_min (Nat.cast_le.2 hpoll) (Nat.cast_le.2 timeout))

end Race
end DesktopHost
