import DesktopHost.Readiness.Race

/-!
The steps of a health poll and of a readiness race, one by one. They watch: a check asks and
records, and leaves the rest of the world as it was.
-/

set_option autoImplicit false

namespace DesktopHost

namespace World

/-- From `w` to `w'` nothing has changed but the record and the health checks. -/
structure Watched (w w' : World) : Prop where
  now : w'.now = w.now
  agenda : w'.agenda = w.agenda
  children : w'.children = w.children
  queue : w'.queue = w.queue
  handleHeld : w'.handleHeld = w.handleHeld
  listening : w'.listening = w.listening

theorem Watched.refl (w : World) : Watched w w := ⟨rfl, rfl, rfl, rfl, rfl, rfl⟩

theorem Watched.trans {a b c : World} (h : Watched a b) (h' : Watched b c) : Watched a c :=
  ⟨h'.now.trans h.now, h'.agenda.trans h.agenda, h'.children.trans h.children,
    h'.queue.trans h.queue, h'.handleHeld.trans h.handleHeld, h'.listening.trans h.listening⟩

theorem watched_note (w : World) (n : Note) : Watched w (w.note n) :=
  ⟨rfl, rfl, rfl, rfl, rfl, rfl⟩

theorem watched_startCheck (w : World) : Watched w w.startCheck.1 := by
  unfold startCheck
  dsimp only
  split <;> exact ⟨rfl, rfl, rfl, rfl, rfl, rfl⟩

end World

namespace Poll

variable {limits : ReadinessConfig} {w w' : World} {p p' : Poll} {o : PollOutcome}

/-- A poll moves on from a failed check to its rest, and from its rest to the next check. -/
theorem step_eq_moved (h : p.step limits w = .moved w' p') :
    (∃ answer deadline e, p.stage = .checking answer deadline ∧
      settled? limits w.now answer deadline = some (.error e) ∧
      p.attempts.isExhausted = false ∧
      w' = w.note (.checkFailed p.attempts.count p.attempts.max e) ∧
      p' = ⟨p.attempts.record, .resting (w.now + sleepLength limits.interval)⟩) ∨
    ∃ wake, p.stage = .resting wake ∧ wake ≤ w.now ∧ (w', p') = check limits w p.attempts := by
  unfold step at h
  split at h
  · next answer deadline hs =>
    split at h
    · cases h
    · cases h
    · next e he =>
      dsimp only at h
      split at h
      · cases h
      · next hx =>
        cases h
        exact .inl ⟨answer, deadline, e, hs, he, Bool.eq_false_iff.2 hx, rfl, rfl⟩
  · next wake hs =>
    split at h
    · next hw =>
      cases h
      exact .inr ⟨wake, hs, hw, rfl⟩
    · cases h

theorem step_eq_done (h : p.step limits w = .done w' o) :
    ∃ answer deadline result, p.stage = .checking answer deadline ∧
      settled? limits w.now answer deadline = some result ∧
      (result = .ok () ∧ w' = w ∧ o = .healthy p.attempts.count ∨
        ∃ e, result = .error e ∧ p.attempts.isExhausted = true ∧
          w' = (w.note (.checkFailed p.attempts.count p.attempts.max e)).note
            (.checksExhausted p.attempts.count) ∧
          o = .exhausted p.attempts.count) := by
  unfold step at h
  split at h
  · next answer deadline hs =>
    split at h
    · cases h
    · next he =>
      cases h
      exact ⟨answer, deadline, _, hs, he, .inl ⟨rfl, rfl, rfl⟩⟩
    · next e he =>
      dsimp only at h
      split at h
      · next hx =>
        cases h
        exact ⟨answer, deadline, _, hs, he, .inr ⟨e, rfl, hx, rfl, rfl⟩⟩
      · cases h
  · split at h <;> cases h

theorem watched_of_moved (h : p.step limits w = .moved w' p') : w.Watched w' := by
  obtain ⟨-, -, e, -, -, -, rfl, -⟩ | ⟨wake, -, -, hc⟩ := step_eq_moved h
  · exact w.watched_note _
  · rw [show w' = w.startCheck.1 from congrArg Prod.fst hc]
    exact w.watched_startCheck

theorem watched_of_done (h : p.step limits w = .done w' o) : w.Watched w' := by
  obtain ⟨-, -, -, -, -, ⟨-, hw, -⟩ | ⟨e, -, -, hw, -⟩⟩ := step_eq_done h
  · rw [hw]
    exact .refl w
  · rw [hw]
    exact (w.watched_note _).trans (World.watched_note _ _)

end Poll

namespace Race

variable {limits : ReadinessConfig} {w w' : World} {r r' : Race} {signal : ReadinessSignal}

theorem step_eq_moved (h : r.step limits w = .moved w' r') :
    w.latchFired r.child = false ∧
      ∃ p, r.poll.step limits w = .moved w' p ∧ r' = { r with poll := p } := by
  unfold step at h
  split at h
  · exact absurd h (resolve_ne_moved _ _ _ _ _)
  · next hl =>
    split at h
    · exact absurd h (resolve_ne_moved _ _ _ _ _)
    · next hp =>
      cases h
      exact ⟨Bool.eq_false_iff.2 hl, _, hp, rfl⟩
    · split at h
      · exact absurd h (resolve_ne_moved _ _ _ _ _)
      · cases h

theorem step_eq_blocked (h : r.step limits w = .blocked) :
    w.latchFired r.child = false ∧ r.poll.step limits w = .blocked ∧
      w.now < r.deadline limits := by
  unfold step at h
  split at h
  · exact absurd h (resolve_ne_blocked _ _ _)
  · next hl =>
    split at h
    · exact absurd h (resolve_ne_blocked _ _ _)
    · cases h
    · next hp =>
      split at h
      · exact absurd h (resolve_ne_blocked _ _ _)
      · exact ⟨Bool.eq_false_iff.2 hl, hp, by omega⟩

theorem watched_of_resolve {signal' : ReadinessSignal}
    (h : resolve w r signal = .resolved w' signal') : w.Watched w' ∧ signal' = signal := by
  unfold resolve at h
  split at h <;> cases h
  · exact ⟨.refl w, rfl⟩
  · exact ⟨w.watched_note _, rfl⟩

/-- The latch decides before the poll, and the poll before the timeout. -/
theorem step_eq_resolved (h : r.step limits w = .resolved w' signal) :
    w.latchFired r.child = true ∧ signal = .outputMatched ∨
    w.latchFired r.child = false ∧ (∃ v o, r.poll.step limits w = .done v o ∧ signal = o.signal) ∨
    w.latchFired r.child = false ∧ r.poll.step limits w = .blocked ∧
      r.deadline limits ≤ w.now ∧ signal = .startupTimeout := by
  unfold step at h
  split at h
  · next hl => exact .inl ⟨hl, (watched_of_resolve h).2⟩
  · next hl =>
    split at h
    · next v o hp =>
      exact .inr (.inl ⟨Bool.eq_false_iff.2 hl, v, o, hp, (watched_of_resolve h).2⟩)
    · cases h
    · next hp =>
      split at h
      · next hd =>
        exact .inr (.inr ⟨Bool.eq_false_iff.2 hl, hp, hd, (watched_of_resolve h).2⟩)
      · cases h

theorem watched_of_moved (h : r.step limits w = .moved w' r') : w.Watched w' := by
  obtain ⟨-, p, hp, -⟩ := step_eq_moved h
  exact Poll.watched_of_moved hp

theorem watched_of_resolved (h : r.step limits w = .resolved w' signal) : w.Watched w' := by
  unfold step at h
  split at h
  · exact (watched_of_resolve h).1
  · split at h
    · next hp => exact (Poll.watched_of_done hp).trans (watched_of_resolve h).1
    · cases h
    · split at h
      · exact (watched_of_resolve h).1
      · cases h

end Race
end DesktopHost
