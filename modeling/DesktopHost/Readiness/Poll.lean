import DesktopHost.Config
import DesktopHost.World.Lemmas

/-!
Polling for health: checks one after the other, each under a time limit, with a rest between
failed ones, until one passes or the allowance is spent.
-/

set_option autoImplicit false

namespace DesktopHost

inductive PollOutcome where
  | healthy (attempts : Nat)
  | exhausted (attempts : Nat)
  deriving DecidableEq, Repr

def PollOutcome.debug : PollOutcome → String
  | .healthy n => "Healthy \x7b attempts: " ++ toString n ++ " \x7d"
  | .exhausted n => "Exhausted \x7b attempts: " ++ toString n ++ " \x7d"

def PollOutcome.signal : PollOutcome → ReadinessSignal
  | .healthy n => .healthCheckPassed n
  | .exhausted n => .healthCheckExhausted n

inductive PollStage where
  /-- A check is under way: when its answer comes, if ever, and when it is given up. -/
  | checking (answer : Option (Nat × Except HealthFailure Unit)) (deadline : Nat)
  | resting (wake : Nat)

/-- The count includes the check that is under way or comes next. -/
structure Poll where
  attempts : Attempts
  stage : PollStage

namespace Poll

/-- Starts the check that `attempts` already counts. -/
def check (limits : ReadinessConfig) (w : World) (attempts : Attempts) : World × Poll :=
  let (w, answer) := w.startCheck
  (w, ⟨attempts, .checking answer (w.now + limits.requestTimeout)⟩)

def start (limits : ReadinessConfig) (w : World) : World × Poll :=
  check limits w (Attempts.new limits.maxAttempts).record

/-- The result of a check by now; an answer at the last instant still counts. -/
def settled? (limits : ReadinessConfig) (now : Nat)
    (answer : Option (Nat × Except HealthFailure Unit)) (deadline : Nat) :
    Option (Except HealthFailure Unit) :=
  match answer with
  | some (time, result) =>
    if time ≤ now then some result
    else if deadline ≤ now then some (.error (.timeout (.ofMillis limits.requestTimeout)))
    else none
  | none =>
    if deadline ≤ now then some (.error (.timeout (.ofMillis limits.requestTimeout))) else none

/-- The next instant at which a poll has something to do. -/
def due (p : Poll) : Nat :=
  match p.stage with
  | .checking (some (time, _)) deadline => min time deadline
  | .checking none deadline => deadline
  | .resting wake => wake

inductive Progress where
  | blocked
  | moved (w : World) (p : Poll)
  | done (w : World) (o : PollOutcome)

def step (limits : ReadinessConfig) (w : World) (p : Poll) : Progress :=
  match p.stage with
  | .checking answer deadline =>
    match settled? limits w.now answer deadline with
    | none => .blocked
    | some (.ok _) => .done w (.healthy p.attempts.count)
    | some (.error e) =>
      let w := w.note (.checkFailed p.attempts.count p.attempts.max e)
      if p.attempts.isExhausted then
        .done (w.note (.checksExhausted p.attempts.count)) (.exhausted p.attempts.count)
      else .moved w ⟨p.attempts.record, .resting (w.now + sleepLength limits.interval)⟩
  | .resting wake =>
    if wake ≤ w.now then
      let (w, p) := check limits w p.attempts
      .moved w p
    else .blocked

/-- Bounds the steps that are left, by the checks that are left. -/
def weight (p : Poll) : Nat :=
  2 * (p.attempts.max - p.attempts.count) +
    (match p.stage with | .checking .. => 1 | .resting _ => 2)

theorem due_of_blocked {limits : ReadinessConfig} {w : World} {p : Poll}
    (h : step limits w p = .blocked) : w.now < p.due := by
  obtain ⟨attempts, stage⟩ := p
  cases stage with
  | checking answer deadline =>
    unfold step at h
    dsimp only at h
    split at h
    · next hs =>
      unfold settled? at hs
      cases answer with
      | none =>
        dsimp only at hs
        split at hs
        · cases hs
        · simp only [due]; omega
      | some a =>
        obtain ⟨time, result⟩ := a
        dsimp only at hs
        split at hs
        · cases hs
        · split at hs
          · cases hs
          · simp only [due]; omega
    · cases h
    · split at h <;> cases h
  | resting wake =>
    unfold step at h
    dsimp only at h
    split at h
    · cases h
    · simp only [due]; omega

theorem weight_of_moved {limits : ReadinessConfig} {w w' : World} {p p' : Poll}
    (h : step limits w p = .moved w' p') : p'.weight < p.weight := by
  obtain ⟨attempts, stage⟩ := p
  cases stage with
  | checking answer deadline =>
    unfold step at h
    dsimp only at h
    split at h
    · cases h
    · cases h
    · split at h
      · cases h
      · next hx =>
        cases h
        have hlt := Attempts.not_isExhausted (Bool.eq_false_iff.2 hx)
        simp only [weight, Attempts.record]; omega
  | resting wake =>
    unfold step check at h
    dsimp only at h
    split at h
    · cases h; simp only [weight]; omega
    · cases h

/-- A step of a poll touches neither the agenda nor the clock nor the command queue. -/
theorem frame_of_moved {limits : ReadinessConfig} {w w' : World} {p p' : Poll}
    (h : step limits w p = .moved w' p') :
    w'.agenda = w.agenda ∧ w'.now = w.now ∧ w'.queue = w.queue := by
  obtain ⟨attempts, stage⟩ := p
  cases stage with
  | checking answer deadline =>
    unfold step at h
    dsimp only at h
    split at h
    · cases h
    · cases h
    · split at h
      · cases h
      · cases h; exact ⟨rfl, rfl, rfl⟩
  | resting wake =>
    unfold step check at h
    dsimp only at h
    split at h
    · cases h; exact w.startCheck_frame
    · cases h

theorem frame_of_done {limits : ReadinessConfig} {w w' : World} {p : Poll} {o : PollOutcome}
    (h : step limits w p = .done w' o) :
    w'.agenda = w.agenda ∧ w'.now = w.now ∧ w'.queue = w.queue := by
  obtain ⟨attempts, stage⟩ := p
  cases stage with
  | checking answer deadline =>
    unfold step at h
    dsimp only at h
    split at h
    · cases h
    · cases h; exact ⟨rfl, rfl, rfl⟩
    · split at h <;> cases h
      exact ⟨rfl, rfl, rfl⟩
  | resting wake =>
    unfold step at h
    dsimp only at h
    split at h <;> cases h

/-- Polls until there is an outcome, letting the time pass in between. -/
def run (limits : ReadinessConfig) (w : World) (p : Poll) : World × PollOutcome :=
  match _h : step limits w p with
  | .done w' o => (w', o)
  | .moved w' p' => run limits w' p'
  | .blocked => run limits (w.advanceTo p.due) p
termination_by (p.weight, p.due - w.now)
decreasing_by
  · exact Prod.Lex.left _ _ (weight_of_moved _h)
  · have := due_of_blocked _h
    refine Prod.Lex.right _ ?_
    rw [World.advanceTo_now]; omega

def pollHealth (limits : ReadinessConfig) (w : World) : World × PollOutcome :=
  let (w, p) := start limits w
  run limits w p

end Poll
end DesktopHost
