import DesktopHost.Readiness.Poll

/-!
The readiness race: a marker line, the health poll and the startup timeout. The first of them
decides; the others are dropped where they stand.
-/

set_option autoImplicit false

namespace DesktopHost

structure Race where
  child : Nat
  started : Nat
  poll : Poll

namespace Race

/-- The race begins with its first health check. -/
def start (limits : ReadinessConfig) (w : World) (child : Nat) : World × Race :=
  let (w', poll) := Poll.start limits w
  (w', ⟨child, w.now, poll⟩)

def deadline (limits : ReadinessConfig) (r : Race) : Nat :=
  r.started + sleepLength limits.startupTimeout

inductive Progress where
  | blocked
  | moved (w : World) (r : Race)
  | resolved (w : World) (signal : ReadinessSignal)

/-- An unconfirmed outcome is recorded. -/
def resolve (w : World) (r : Race) (signal : ReadinessSignal) : Progress :=
  if signal.isConfirmed then .resolved w signal
  else .resolved (w.note (.readinessAssumed signal (w.now - r.started))) signal

def step (limits : ReadinessConfig) (w : World) (r : Race) : Progress :=
  if w.latchFired r.child then resolve w r .outputMatched
  else
    match r.poll.step limits w with
    | .done w o => resolve w r o.signal
    | .moved w p => .moved w { r with poll := p }
    | .blocked => if r.deadline limits ≤ w.now then resolve w r .startupTimeout else .blocked

/-- The next instant at which the race has something to do of its own. -/
def due (limits : ReadinessConfig) (r : Race) : Nat := min r.poll.due (r.deadline limits)

def weight (r : Race) : Nat := r.poll.weight

theorem resolve_ne_blocked (w : World) (r : Race) (s : ReadinessSignal) :
    resolve w r s ≠ .blocked := by
  unfold resolve; split <;> exact Progress.noConfusion

theorem resolve_ne_moved (w : World) (r : Race) (s : ReadinessSignal) (w' : World) (r' : Race) :
    resolve w r s ≠ .moved w' r' := by
  unfold resolve; split <;> exact Progress.noConfusion

theorem frame_of_resolve {w w' : World} {r : Race} {s s' : ReadinessSignal}
    (h : resolve w r s = .resolved w' s') :
    w'.agenda = w.agenda ∧ w'.now = w.now ∧ w'.queue = w.queue := by
  unfold resolve at h
  split at h <;> cases h <;> exact ⟨rfl, rfl, rfl⟩

theorem due_of_blocked {limits : ReadinessConfig} {w : World} {r : Race}
    (h : step limits w r = .blocked) : w.now < r.due limits := by
  unfold step at h
  split at h
  · exact absurd h (resolve_ne_blocked _ _ _)
  · split at h
    · exact absurd h (resolve_ne_blocked _ _ _)
    · cases h
    · next hp =>
      have := Poll.due_of_blocked hp
      split at h
      · exact absurd h (resolve_ne_blocked _ _ _)
      · unfold due; omega

theorem weight_of_moved {limits : ReadinessConfig} {w w' : World} {r r' : Race}
    (h : step limits w r = .moved w' r') : r'.weight < r.weight := by
  unfold step at h
  split at h
  · exact absurd h (resolve_ne_moved _ _ _ _ _)
  · split at h
    · exact absurd h (resolve_ne_moved _ _ _ _ _)
    · next hp => cases h; exact Poll.weight_of_moved hp
    · split at h
      · exact absurd h (resolve_ne_moved _ _ _ _ _)
      · cases h

theorem frame_of_moved {limits : ReadinessConfig} {w w' : World} {r r' : Race}
    (h : step limits w r = .moved w' r') :
    w'.agenda = w.agenda ∧ w'.now = w.now ∧ w'.queue = w.queue := by
  unfold step at h
  split at h
  · exact absurd h (resolve_ne_moved _ _ _ _ _)
  · split at h
    · exact absurd h (resolve_ne_moved _ _ _ _ _)
    · next hp => cases h; exact Poll.frame_of_moved hp
    · split at h
      · exact absurd h (resolve_ne_moved _ _ _ _ _)
      · cases h

theorem frame_of_resolved {limits : ReadinessConfig} {w w' : World} {r : Race}
    {s : ReadinessSignal} (h : step limits w r = .resolved w' s) :
    w'.agenda = w.agenda ∧ w'.now = w.now ∧ w'.queue = w.queue := by
  unfold step at h
  split at h
  · exact frame_of_resolve h
  · split at h
    · next hp =>
      have h₁ := frame_of_resolve h
      have h₂ := Poll.frame_of_done hp
      exact ⟨h₁.1.trans h₂.1, h₁.2.1.trans h₂.2.1, h₁.2.2.trans h₂.2.2⟩
    · cases h
    · split at h
      · exact frame_of_resolve h
      · cases h

/-- The instant to wait for: the race's own, or whatever is due in the world before it. -/
def wake (limits : ReadinessConfig) (w : World) (r : Race) : Nat :=
  match w.nextDue? with
  | some t => min t (r.due limits)
  | none => r.due limits

/-- Runs the race to its end, letting the world go on meanwhile. -/
def run (limits : ReadinessConfig) (w : World) (r : Race) : World × ReadinessSignal :=
  match _h : step limits w r with
  | .resolved w' s => (w', s)
  | .moved w' r' => run limits w' r'
  | .blocked => run limits (w.advanceTo (r.wake limits w)) r
termination_by (r.weight, w.agenda.length, r.due limits - w.now)
decreasing_by
  · exact Prod.Lex.left _ _ (weight_of_moved _h)
  · have hdue := due_of_blocked _h
    refine Prod.Lex.right _ ?_
    unfold wake World.nextDue?
    cases ha : w.agenda with
    | nil =>
      have hlen := w.advanceTo_agenda_length_le (r.due limits)
      rw [ha] at hlen
      simp only [List.head?_nil, Option.map_none, List.length_nil] at hlen ⊢
      have h0 : (w.advanceTo (r.due limits)).agenda.length = 0 := by omega
      rw [h0]
      refine Prod.Lex.right _ ?_
      rw [World.advanceTo_now]; omega
    | cons d rest =>
      simp only [List.head?_cons, Option.map_some]
      by_cases hd : d.time ≤ min d.time (r.due limits)
      · refine Prod.Lex.left _ _ ?_
        have := w.advanceTo_agenda_length_lt _ d rest ha hd
        rwa [ha] at this
      · have hlt : min d.time (r.due limits) = r.due limits := by omega
        rw [hlt] at hd ⊢
        have hdrop : (w.advanceTo (r.due limits)).agenda = d :: rest := by
          rw [World.advanceTo_agenda, ha, List.dropWhile_cons]
          simp [hd]
        rw [hdrop]
        refine Prod.Lex.right _ ?_
        rw [World.advanceTo_now]; omega

end Race
end DesktopHost
