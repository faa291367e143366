import DesktopHost.Proofs.Past
import DesktopHost.Proofs.Watching

/-!
What the parts of a session do in two worlds that it cannot tell apart: a signal, a shutdown, the
window, the spawn of a backend and the race for its readiness lead to worlds that it cannot tell
apart either, and to the same results. The relation of the worlds is left open; one of them is to
agree but for a past.
-/

set_option autoImplicit false

namespace DesktopHost

/-- Nothing lies behind. -/
def Past.none : Past := ⟨0, 0, 0, 0, 0, []⟩

theorem Event.after_none (e : Event) : e.after .none = e := by
  cases e with
  | note n => cases n <;> rfl
  | _ => rfl

namespace World

/-- The same answer, in worlds that are related. -/
inductive Same {α : Type} (W : World → World → Prop) : World × α → World × α → Prop where
  | mk {w v : World} (a : α) (h : W w v) : Same W (w, a) (v, a)

theorem Same.exists {α : Type} {W : World → World → Prop} {x y : World × α} (h : Same W x y) :
    ∃ w v a, x = (w, a) ∧ y = (v, a) ∧ W w v := by
  cases h with
  | mk a h => exact ⟨_, _, a, rfl, rfl, h⟩

theorem Agree.same {α : Type} {p : Past} {x y : World × α} (h : Agree p x y) :
    Same (Follows p) x y := by
  cases h with
  | mk a h => exact .mk a h

/-- A session that starts and watches its backends does not tell worlds apart that `W` relates,
the past `p` aside. A latch matters only on children that are heard; all new ones are. -/
structure Mirrors (p : Past) (markers : List String) (heard : Nat → Prop)
    (W : World → World → Prop) : Prop where
  now : ∀ {w v}, W w v → w.now = v.now + p.time
  visibleExit : ∀ {w v}, W w v → ∀ i, w.visibleExit (i + p.children) = v.visibleExit i
  publishedExit : ∀ {w v}, W w v → ∀ i, w.publishedExit (i + p.children) = v.publishedExit i
  latchFired : ∀ {w v}, W w v → ∀ i, heard i → w.latchFired (i + p.children) = v.latchFired i
  emit : ∀ {w v}, W w v → ∀ e : Event, W (w.emit (e.after p)) (v.emit e)
  receive : ∀ {w v}, W w v → Same W w.receive v.receive
  startCheck : ∀ {w v}, W w v → W w.startCheck.1 v.startCheck.1 ∧
    w.startCheck.2 = v.startCheck.2.map fun a => (a.1 + p.time, a.2)
  openWindow : ∀ {w v}, W w v → ∀ url, Same W (w.openWindow url) (v.openWindow url)
  showDialog : ∀ {w v}, W w v → ∀ d, Same W (w.showDialog d) (v.showDialog d)
  spawnBackend : ∀ {w v}, W w v → ∀ l, W (w.spawnBackend l markers).1 (v.spawnBackend l markers).1 ∧
    (w.spawnBackend l markers).2 = (v.spawnBackend l markers).2.map (Handle.after p)
  hears : ∀ {w v}, W w v → ∀ l b, (v.spawnBackend l markers).2 = .ok b → heard b.child
  deafen : ∀ {w v}, W w v → W { w with listening := false } { v with listening := false }

/-- Nor when it stops one. -/
structure Stops (p : Past) (W : World → World → Prop) : Prop where
  signal : ∀ {w v}, W w v → ∀ i s, Same W (w.signal (i + p.children) s) (v.signal i s)
  awaitExit : ∀ {w v}, W w v → ∀ i deadline, v.now ≤ deadline →
    Same W (w.awaitExit (i + p.children) (deadline + p.time)) (v.awaitExit i deadline)

variable {p : Past} {markers : List String} {heard : Nat → Prop} {W : World → World → Prop}
  {w v : World}

theorem Mirrors.note (hW : Mirrors p markers heard W) (h : W w v) (n : Note) :
    W (w.note (n.after p)) (v.note n) :=
  hW.emit h (.note n)

end World

open World (Same Mirrors Stops)

variable {p : Past} {markers : List String} {heard : Nat → Prop} {W : World → World → Prop}
  {w v : World}

namespace Handle

theorem same_signal (hW : Mirrors p markers heard W) (hS : Stops p W) (h : W w v) (b : Handle)
    (s : TerminationSignal) : Same W ((b.after p).signal w s) (b.signal v s) := by
  unfold signal
  rw [show (b.after p).exitReport w = b.exitReport v from hW.publishedExit h b.child]
  split
  · exact .mk _ (hW.note h (.signalSkipped b.pid s _))
  · exact hS.signal h b.child s

end Handle

namespace Shutdown

theorem related_send (hW : Mirrors p markers heard W) (hS : Stops p W) (h : W w v) (b : Handle)
    (s : TerminationSignal) : W (send w (b.after p) s) (send v b s) := by
  obtain ⟨w', v', result, hw, hv, h'⟩ := (Handle.same_signal hW hS h b s).exists
  unfold send
  rw [hw, hv]
  cases result with
  | ok _ => exact h'
  | error f => exact hW.note h' (.signalFailed s b.pid f)

/-- To wait for an exit for a while, from now on. -/
theorem same_awaitExit (hW : Mirrors p markers heard W) (hS : Stops p W) (h : W w v) (b : Handle)
    (ms : Nat) :
    Same W (w.awaitExit (b.after p).child (w.now + ms)) (v.awaitExit b.child (v.now + ms)) := by
  have hdeadline : w.now + ms = v.now + ms + p.time := by rw [hW.now h]; omega
  rw [hdeadline]
  exact hS.awaitExit h b.child _ (Nat.le_add_right _ _)

theorem same_force (hW : Mirrors p markers heard W) (hS : Stops p W) (h : W w v) (b : Handle)
    (grace : Nat) : Same W (force w (b.after p) grace) (force v b grace) := by
  have hsent : W (send (w.note (.forcing (b.after p).pid grace)) (b.after p) .forceful)
      (send (v.note (.forcing b.pid grace)) b .forceful) :=
    related_send hW hS (hW.note h (.forcing b.pid grace)) b .forceful
  obtain ⟨w', v', exit, hw, hv, h'⟩ := (same_awaitExit hW hS hsent b reapTimeout).exists
  unfold force
  dsimp only
  rw [hw, hv]
  cases exit with
  | some r => exact .mk _ h'
  | none => exact .mk _ (hW.note h' (.exitNotSeen b.pid))

theorem same_escalate (hW : Mirrors p markers heard W) (hS : Stops p W) (h : W w v) (b : Handle)
    (grace : Nat) : Same W (escalate w (b.after p) grace) (escalate v b grace) := by
  unfold escalate
  rw [show (b.after p).exitReport w = b.exitReport v from hW.publishedExit h b.child]
  split
  · exact .mk _ (hW.note h (.alreadyExited b.pid _))
  · obtain ⟨w', v', exit, hw, hv, h'⟩ :=
      (same_awaitExit hW hS (related_send hW hS h b .graceful) b grace).exists
    dsimp only
    rw [hw, hv]
    cases exit with
    | some r => exact .mk _ h'
    | none => exact same_force hW hS h' b grace

end Shutdown

namespace WindowHost

theorem same_create (hW : Mirrors p markers heard W) (h : W w v) (host : WindowHost)
    (url : String) : Same W (host.create w url) (host.create v url) := by
  unfold create
  split
  · exact .mk _ (hW.note h (.windowAlreadyOpen url))
  · obtain ⟨w', v', result, hw, hv, h'⟩ := (hW.openWindow h url).exists
    rw [hw, hv]
    cases result <;> exact .mk _ h'

theorem same_close (hW : Mirrors p markers heard W) (h : W w v) (host : WindowHost) :
    Same W (host.close w) (host.close v) := by
  unfold close
  refine .mk _ ?_
  split
  · exact hW.note h .windowClosed
  · exact h

end WindowHost

def PollStage.after (p : Past) : PollStage → PollStage
  | .checking answer deadline =>
    .checking (answer.map fun a => (a.1 + p.time, a.2)) (deadline + p.time)
  | .resting wake => .resting (wake + p.time)

namespace Poll

variable {limits : ReadinessConfig}

def after (p : Past) (poll : Poll) : Poll := { poll with stage := poll.stage.after p }

theorem after_none (poll : Poll) : poll.after .none = poll := by
  obtain ⟨attempts, stage⟩ := poll
  cases stage with
  | checking answer deadline => cases answer <;> rfl
  | resting wake => rfl

theorem due_after (p : Past) (poll : Poll) : (poll.after p).due = poll.due + p.time := by
  obtain ⟨attempts, stage⟩ := poll
  cases stage with
  | checking answer deadline =>
    cases answer with
    | none => rfl
    | some a => simp only [after, PollStage.after, due, Option.map_some]; omega
  | resting wake => rfl

theorem settled?_after (p : Past) (limits : ReadinessConfig) (now deadline : Nat)
    (answer : Option (Nat × Except HealthFailure Unit)) :
    settled? limits (now + p.time) (answer.map fun a => (a.1 + p.time, a.2))
      (deadline + p.time) = settled? limits now answer deadline := by
  cases answer with
  | none => simp [settled?]
  | some a => simp [settled?]

/-- The same progress, in worlds that are related. -/
inductive Progress.Same (p : Past) (W : World → World → Prop) : Progress → Progress → Prop where
  | blocked : Same p W .blocked .blocked
  | moved {w v : World} (poll : Poll) (h : W w v) :
    Same p W (.moved w (poll.after p)) (.moved v poll)
  | done {w v : World} (o : PollOutcome) (h : W w v) : Same p W (.done w o) (.done v o)

theorem related_check (hW : Mirrors p markers heard W) (h : W w v) (limits : ReadinessConfig)
    (attempts : Attempts) : W (check limits w attempts).1 (check limits v attempts).1 ∧
      (check limits w attempts).2 = (check limits v attempts).2.after p := by
  obtain ⟨hworld, hanswer⟩ := hW.startCheck h
  refine ⟨hworld, ?_⟩
  have hnow := hW.now hworld
  simp only [check, hanswer, hnow, after, PollStage.after]
  congr 2
  omega

theorem same_step (hW : Mirrors p markers heard W) (h : W w v) (limits : ReadinessConfig)
    (poll : Poll) : Progress.Same p W ((poll.after p).step limits w) (poll.step limits v) := by
  have hnow := hW.now h
  obtain ⟨attempts, stage⟩ := poll
  cases stage with
  | checking answer deadline =>
    simp only [step, after, PollStage.after, hnow, settled?_after]
    split
    · exact .blocked
    · exact .done _ h
    · next e _ =>
      have hfailed := hW.note h (.checkFailed attempts.count attempts.max e)
      by_cases hx : attempts.isExhausted = true
      · simp only [hx, if_true]
        exact .done _ (hW.note hfailed (.checksExhausted attempts.count))
      · have hwake : v.now + p.time + sleepLength limits.interval =
            v.now + sleepLength limits.interval + p.time := by omega
        simp only [hx, Bool.false_eq_true, if_false, World.note_now, hnow, hwake]
        exact .moved ⟨attempts.record, .resting (v.now + sleepLength limits.interval)⟩ hfailed
  | resting wake =>
    simp only [step, after, PollStage.after, hnow, Nat.add_le_add_iff_right]
    split
    · obtain ⟨hworld, hpoll⟩ := related_check hW h limits attempts
      rw [hpoll]
      exact .moved _ hworld
    · exact .blocked

end Poll

namespace Race

variable {limits : ReadinessConfig}

def after (p : Past) (r : Race) : Race :=
  ⟨r.child + p.children, r.started + p.time, r.poll.after p⟩

theorem after_none (r : Race) : r.after .none = r := by
  obtain ⟨child, started, poll⟩ := r
  rw [after, Poll.after_none]
  rfl

theorem deadline_after (p : Past) (limits : ReadinessConfig) (r : Race) :
    (r.after p).deadline limits = r.deadline limits + p.time := by
  simp only [deadline, after]; omega

theorem due_after (p : Past) (limits : ReadinessConfig) (r : Race) :
    (r.after p).due limits = r.due limits + p.time := by
  rw [due, due, deadline_after, show (r.after p).poll = r.poll.after p from rfl, Poll.due_after]
  omega

/-- A race that has nothing to do has nothing to do until its next look. -/
theorem step_withClock {r : Race} (h : r.step limits v = .blocked) {u : Nat}
    (hu : u < r.due limits) : r.step limits (v.withClock u) = .blocked := by
  obtain ⟨hl, -, -⟩ := step_eq_blocked h
  have hl' : (v.withClock u).latchFired r.child = false := hl
  have hpoll : r.poll.step limits (v.withClock u) = .blocked :=
    Poll.step_eq_blocked_iff.2 (Nat.lt_of_lt_of_le hu (Nat.min_le_left _ _))
  have hdeadline : ¬r.deadline limits ≤ (v.withClock u).now :=
    Nat.not_le.2 (Nat.lt_of_lt_of_le hu (Nat.min_le_right _ _))
  unfold step
  rw [hl', hpoll]
  exact if_neg hdeadline

theorem elapsed_after (hnow : w.now = v.now + p.time) (r : Race) :
    w.now - (r.after p).started = v.now - r.started := by
  rw [hnow]
  exact Nat.add_sub_add_right ..

inductive Progress.Same (p : Past) (W : World → World → Prop) : Progress → Progress → Prop where
  | blocked : Same p W .blocked .blocked
  | moved {w v : World} (r : Race) (h : W w v) : Same p W (.moved w (r.after p)) (.moved v r)
  | resolved {w v : World} (signal : ReadinessSignal) (h : W w v) :
    Same p W (.resolved w signal) (.resolved v signal)

theorem same_resolve (hW : Mirrors p markers heard W) (h : W w v) (r : Race)
    (signal : ReadinessSignal) :
    Progress.Same p W (resolve w (r.after p) signal) (resolve v r signal) := by
  unfold resolve
  rw [elapsed_after (hW.now h)]
  split
  · exact .resolved _ h
  · exact .resolved _ (hW.note h (.readinessAssumed signal _))

theorem same_step (hW : Mirrors p markers heard W) (h : W w v) (limits : ReadinessConfig)
    (r : Race) (hr : heard r.child) :
    Progress.Same p W ((r.after p).step limits w) (r.step limits v) := by
  have hpoll := Poll.same_step hW h limits r.poll
  unfold step
  rw [deadline_after, hW.now h, show w.latchFired (r.after p).child = v.latchFired r.child from
    hW.latchFired h r.child hr, show (r.after p).poll = r.poll.after p from rfl]
  split
  · exact same_resolve hW h r _
  · generalize (r.poll.after p).step limits w = x at hpoll
    generalize r.poll.step limits v = y at hpoll
    cases hpoll with
    | blocked =>
      simp only [Nat.add_le_add_iff_right]
      split
      · exact same_resolve hW h r _
      · exact .blocked
    | moved poll h => exact .moved { r with poll := poll } h
    | done o h => exact same_resolve hW h r _

theorem related_start (hW : Mirrors p markers heard W) (h : W w v) (limits : ReadinessConfig)
    (i : Nat) : W (start limits w (i + p.children)).1 (start limits v i).1 ∧
      (start limits w (i + p.children)).2 = (start limits v i).2.after p := by
  obtain ⟨hworld, hpoll⟩ :=
    Poll.related_check hW h limits (Attempts.new limits.maxAttempts).record
  refine ⟨hworld, ?_⟩
  simp only [start, Poll.start, after, hpoll, hW.now h]

end Race

namespace World.Follows

/-- The beginning of a backend's life, with the children counted on. -/
theorem spawnBackend (h : w.Follows p v) (l : Launch) (markers : List String) :
    (w.spawnBackend l markers).1.Follows p (v.spawnBackend l markers).1 ∧
      (w.spawnBackend l markers).2 = (v.spawnBackend l markers).2.map (Handle.after p) := by
  unfold World.spawnBackend
  rw [h.files, h.cwd]
  split
  · obtain ⟨hs, hi⟩ := h.spawn l
    generalize w.spawn l = x at hs hi
    generalize v.spawn l = y at hs hi
    obtain ⟨w', result⟩ := x
    obtain ⟨v', result'⟩ := y
    cases result' with
    | error f =>
      cases hi
      exact ⟨World.Follows.note hs (.spawnFailed l.program f), rfl⟩
    | ok i =>
      cases hi
      refine ⟨World.Follows.attachReaders hs i markers, ?_⟩
      have hchild : w'.child? (i + p.children) = v'.child? i := World.Matches.child hs.toMatches i
      simp only [Except.map, Handle.ofChild, hchild]
      cases v'.child? i <;> rfl
  · exact ⟨h.note (.executableMissing l.program), rfl⟩

/-- No session tells a past from none. -/
theorem mirrors (p : Past) (markers : List String) :
    Mirrors p markers (fun _ => True) (World.Follows p) where
  now h := h.now
  visibleExit h := h.visibleExit
  publishedExit h := h.publishedExit
  latchFired h i _ := h.latchFired i
  emit h := h.emit
  receive h := h.receive.same
  startCheck h := h.startCheck
  openWindow h url := (h.openWindow url).same
  showDialog h d := (h.showDialog d).same
  spawnBackend h l := h.spawnBackend l markers
  hears _ _ _ _ := trivial
  deafen h := { h with listening := rfl }

theorem stops (p : Past) : Stops p (World.Follows p) where
  signal h i s := (h.signal i s).same
  awaitExit h i _ hn := (h.awaitExit i hn).same

end World.Follows
end DesktopHost
