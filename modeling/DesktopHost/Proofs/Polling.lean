import DesktopHost.Proofs.FirstSignal
import Mathlib.Algebra.BigOperators.Intervals
import Mathlib.Order.Bounds.Basic

/-!
A health poll from its start to its end. Each check takes until it answers or is given up, the
first that passes ends the poll, and so does the last one allowed; between two checks lies one
rest. So the answers to come tell how the poll ends, when, and at which instants it asks.
-/

set_option autoImplicit false

namespace DesktopHost

/-- The answer to a check, counted from zero, under a script. -/
def answerOf (script : List HealthAnswer) : Nat → HealthAnswer
  | 0 => (nextOf .silent script).1
  | i + 1 => answerOf (nextOf .silent script).2 i

/-- A script of one answer gives it to every check. -/
theorem answerOf_singleton (a : HealthAnswer) (i : Nat) : answerOf [a] i = a := by
  induction i with
  | zero => rfl
  | succ i ih => exact ih

namespace HealthAnswer

/-- How long the answer takes, if it comes at all. -/
def delay? : HealthAnswer → Option Nat
  | .silent => none
  | .after delay _ => some (sleepLength delay)

/-- The answer to a check made at `now`, with the instant at which it is there. -/
def arrival (now : Nat) : HealthAnswer → Option (Nat × Except HealthFailure Unit)
  | .silent => none
  | .after delay result => some (now + sleepLength delay, result)

/-- How long a check lasts that is given up after `limit`. -/
def taken (limit : Nat) (a : HealthAnswer) : Nat :=
  match a.delay? with
  | some d => min d limit
  | none => limit

/-- What a check comes to that is given up after `limit`. -/
def verdict (limit : Nat) : HealthAnswer → Except HealthFailure Unit
  | .silent => .error (.timeout (.ofMillis limit))
  | .after delay result =>
    if sleepLength delay ≤ limit then result else .error (.timeout (.ofMillis limit))

/-- A success that comes in time. -/
def Passes (limit : Nat) : HealthAnswer → Prop
  | .after delay (.ok _) => sleepLength delay < limit
  | .after _ (.error _) | .silent => False

instance (limit : Nat) : DecidablePred (Passes limit) := fun a =>
  match a with
  | .after delay (.ok _) => inferInstanceAs (Decidable (sleepLength delay < limit))
  | .after _ (.error _) | .silent => inferInstanceAs (Decidable False)

theorem verdict_eq_ok_iff {limit : Nat} {a : HealthAnswer} (apart : a.delay? ≠ some limit) :
    a.verdict limit = .ok () ↔ a.Passes limit := by
  cases a with
  | silent => exact ⟨nofun, False.elim⟩
  | after delay result =>
    have hne : sleepLength delay ≠ limit := fun h => apart (congrArg some h)
    dsimp only [verdict]
    cases result with
    | ok u =>
      constructor
      · intro h
        split at h
        · exact Nat.lt_of_le_of_ne ‹_› hne
        · cases h
      · exact fun h => if_pos (Nat.le_of_lt h)
    | error e =>
      refine ⟨fun h => ?_, False.elim⟩
      split at h <;> cases h

end HealthAnswer

namespace World

variable (w : World)

/-- The answer to the check that is the `i`-th from now on, counted from zero. -/
def answer (i : Nat) : HealthAnswer := answerOf w.health i

/-- From `w` to `w'` time may have passed and remarks been made. -/
structure Calm (w w' : World) : Prop where
  deeds : w'.deeds = w.deeds
  health : w'.health = w.health
  checks : w'.checks = w.checks

theorem Calm.trans {a b c : World} (h : Calm a b) (h' : Calm b c) : Calm a c :=
  ⟨h'.deeds.trans h.deeds, h'.health.trans h.health, h'.checks.trans h.checks⟩

theorem calm_note {n : Note} (h : n.isDeed = false) : w.Calm (w.note n) :=
  ⟨w.deeds_note h, rfl, rfl⟩

theorem checks_occur (o : Occurrence) : (w.occur o).checks = w.checks := by
  cases o with
  | command c => simp only [occur, sendCommand]; split <;> (try split) <;> rfl
  | line i stream text =>
    simp only [occur, readLine]
    split
    · rfl
    · cases stream with
      | stderr => rfl
      | stdout => dsimp only; split <;> rfl
  | _ => rfl

theorem calm_advanceTo (t : Nat) : w.Calm (w.advanceTo t) where
  deeds := w.deeds_advanceTo t
  health := w.health_advanceTo t
  checks := w.advanceTo_keeps (·.checks) (fun _ _ => rfl) (fun _ _ => rfl)
    (fun w d => checks_occur (w.withClock (max w.now d.time)) d.what) t

/-- A check uses up the next answer. -/
theorem startCheck_spec : w.startCheck.1.now = w.now ∧
    w.startCheck.1.deeds = (w.now, .healthCall (w.checks + 1)) :: w.deeds ∧
    w.startCheck.1.checks = w.checks + 1 ∧
    w.startCheck.1.health = (nextOf .silent w.health).2 := by
  unfold startCheck
  dsimp only
  split <;> exact ⟨rfl, rfl, rfl, rfl⟩

theorem startCheck_answer : w.startCheck.2 = (w.answer 0).arrival w.now := by
  have hanswer : w.answer 0 = (nextOf .silent w.health).1 := rfl
  unfold startCheck
  rw [hanswer]
  dsimp only
  cases (nextOf HealthAnswer.silent w.health).1 <;> rfl

end World

namespace Poll

variable {limits : ReadinessConfig} {w v : World}

/-- A poll that waits does so until it has something to do. -/
theorem run_waits (limits : ReadinessConfig) (w : World) (p : Poll) :
    ∃ v, v.now = max w.now p.due ∧ w.Calm v ∧ run limits w p = run limits v p := by
  rcases Nat.lt_or_ge w.now p.due with h | h
  · exact ⟨w.advanceTo p.due, w.advanceTo_now _, w.calm_advanceTo _,
      run_of_blocked (step_eq_blocked_iff.2 h)⟩
  · exact ⟨w, (Nat.max_eq_left h).symm, ⟨rfl, rfl, rfl⟩, rfl⟩

theorem check_eq (limits : ReadinessConfig) (w : World) (a : Attempts) :
    check limits w a = (w.startCheck.1,
      ⟨a, .checking ((w.answer 0).arrival w.now) (w.now + limits.requestTimeout)⟩) := by
  unfold check
  rw [← w.startCheck_answer]
  dsimp only
  rw [w.startCheck_spec.1]

/-- A check is settled once it has taken its time, and comes to its verdict. -/
theorem settled_arrival (limits : ReadinessConfig) (now : Nat) (a : HealthAnswer) :
    settled? limits (now + a.taken limits.requestTimeout) (a.arrival now)
      (now + limits.requestTimeout) = some (a.verdict limits.requestTimeout) := by
  cases a with
  | silent => exact if_pos (Nat.le_refl _)
  | after delay result =>
    dsimp only [settled?, HealthAnswer.arrival, HealthAnswer.taken, HealthAnswer.delay?,
      HealthAnswer.verdict]
    by_cases h : sleepLength delay ≤ limits.requestTimeout
    · rw [if_pos (by omega), if_pos h]
    · rw [if_neg (by omega), if_pos (by omega), if_neg h]

theorem due_checking (now limit : Nat) (attempts : Attempts) (a : HealthAnswer) :
    due ⟨attempts, .checking (a.arrival now) (now + limit)⟩ = now + a.taken limit := by
  cases a with
  | silent => rfl
  | after delay result => exact Nat.add_min_add_left now (sleepLength delay) limit

/-- A check from its start until it is settled. -/
theorem run_check (limits : ReadinessConfig) (w : World) (a : Attempts) :
    ∃ v p, v.now = w.now + (w.answer 0).taken limits.requestTimeout ∧ w.startCheck.1.Calm v ∧
      run limits (check limits w a).1 (check limits w a).2 = run limits v p ∧
      step limits v p = match (w.answer 0).verdict limits.requestTimeout with
        | .ok _ => .done v (.healthy a.count)
        | .error e =>
          if a.isExhausted then
            .done ((v.note (.checkFailed a.count a.max e)).note (.checksExhausted a.count))
              (.exhausted a.count)
          else .moved (v.note (.checkFailed a.count a.max e))
            ⟨a.record, .resting (v.now + sleepLength limits.interval)⟩ := by
  rw [check_eq]
  obtain ⟨v, hnow, hcalm, hrun⟩ := run_waits limits w.startCheck.1
    ⟨a, .checking ((w.answer 0).arrival w.now) (w.now + limits.requestTimeout)⟩
  rw [due_checking, w.startCheck_spec.1, Nat.max_eq_right (Nat.le_add_right _ _)] at hnow
  have hsettled := settled_arrival limits w.now (w.answer 0)
  rw [← hnow] at hsettled
  refine ⟨v, _, hnow, hcalm, hrun, ?_⟩
  unfold step
  dsimp only
  rw [hsettled]
  cases (w.answer 0).verdict limits.requestTimeout <;> rfl

/-- A check that passes ends the poll. -/
theorem run_check_passed {a : Attempts}
    (h : (w.answer 0).verdict limits.requestTimeout = .ok ()) :
    ∃ v, v.now = w.now + (w.answer 0).taken limits.requestTimeout ∧ w.startCheck.1.Calm v ∧
      run limits (check limits w a).1 (check limits w a).2 = (v, .healthy a.count) := by
  obtain ⟨v, p, hnow, hcalm, hrun, hstep⟩ := run_check limits w a
  rw [h] at hstep
  exact ⟨v, hnow, hcalm, hrun.trans (run_of_done hstep)⟩

/-- So does the last one that is allowed. -/
theorem run_check_spent {a : Attempts} {e : HealthFailure}
    (h : (w.answer 0).verdict limits.requestTimeout = .error e) (ha : a.isExhausted = true) :
    ∃ v, v.now = w.now + (w.answer 0).taken limits.requestTimeout ∧ w.startCheck.1.Calm v ∧
      run limits (check limits w a).1 (check limits w a).2 = (v, .exhausted a.count) := by
  obtain ⟨v, p, hnow, hcalm, hrun, hstep⟩ := run_check limits w a
  rw [h] at hstep
  dsimp only at hstep
  rw [if_pos ha] at hstep
  exact ⟨(v.note (.checkFailed a.count a.max e)).note (.checksExhausted a.count), hnow,
    hcalm.trans ((v.calm_note rfl).trans (World.calm_note _ rfl)), hrun.trans (run_of_done hstep)⟩

/-- After any other there is a rest, and the next check. -/
theorem run_check_again {a : Attempts} {e : HealthFailure}
    (h : (w.answer 0).verdict limits.requestTimeout = .error e) (ha : a.isExhausted = false) :
    ∃ v, v.now = w.now + ((w.answer 0).taken limits.requestTimeout + sleepLength limits.interval) ∧
      w.startCheck.1.Calm v ∧
      run limits (check limits w a).1 (check limits w a).2 =
        run limits (check limits v a.record).1 (check limits v a.record).2 := by
  obtain ⟨u, p, hnow, hcalm, hrun, hstep⟩ := run_check limits w a
  rw [h] at hstep
  dsimp only at hstep
  rw [if_neg (by rw [ha]; exact Bool.false_ne_true)] at hstep
  obtain ⟨v, hv, hrest, hrun'⟩ := run_waits limits (u.note (.checkFailed a.count a.max e))
    ⟨a.record, .resting (u.now + sleepLength limits.interval)⟩
  have hnow' : v.now = u.now + sleepLength limits.interval :=
    hv.trans (Nat.max_eq_right (Nat.le_add_right _ _))
  refine ⟨v, by omega, hcalm.trans ((u.calm_note rfl).trans hrest), ?_⟩
  rw [hrun, run_of_moved hstep, hrun']
  refine run_of_moved ?_
  unfold step
  dsimp only
  rw [if_pos (Nat.le_of_eq hnow'.symm)]

/-- When the `i`-th check from now on starts, counted from zero, if there is a rest of `rest` after
each check before it. -/
def checkStart (rest limit : Nat) (w : World) (i : Nat) : Nat :=
  w.now + ∑ j ∈ Finset.range i, ((w.answer j).taken limit + rest)

/-- When that check has been answered or given up. -/
def checkEnd (rest limit : Nat) (w : World) (i : Nat) : Nat :=
  checkStart rest limit w i + (w.answer i).taken limit

/-- The first `n` checks from now on, newest first, each at its start. -/
def calls (rest limit : Nat) (w : World) : Nat → List (Nat × Event)
  | 0 => []
  | n + 1 => (checkStart rest limit w n, .healthCall (w.checks + n + 1)) :: calls rest limit w n

section

variable {rest limit : Nat}

theorem answer_succ (h : w.startCheck.1.Calm v) (i : Nat) : v.answer i = w.answer (i + 1) := by
  rw [World.answer, h.health, w.startCheck_spec.2.2.2]
  rfl

theorem checkStart_zero : checkStart rest limit w 0 = w.now := by
  rw [checkStart, Finset.sum_range_zero, Nat.add_zero]

theorem deeds_calls_one (h : w.startCheck.1.Calm v) :
    v.deeds = calls rest limit w 1 ++ w.deeds := by
  rw [h.deeds, w.startCheck_spec.2.1, calls, calls, checkStart_zero]
  rfl

/-- Seen from the next check. -/
theorem checkStart_succ (h : w.startCheck.1.Calm v)
    (hnow : v.now = w.now + ((w.answer 0).taken limit + rest)) (i : Nat) :
    checkStart rest limit v i = checkStart rest limit w (i + 1) := by
  unfold checkStart
  rw [Finset.sum_range_succ', hnow]
  simp only [answer_succ h]
  omega

theorem checkEnd_succ (h : w.startCheck.1.Calm v)
    (hnow : v.now = w.now + ((w.answer 0).taken limit + rest)) (i : Nat) :
    checkEnd rest limit v i = checkEnd rest limit w (i + 1) := by
  rw [checkEnd, checkEnd, checkStart_succ h hnow, answer_succ h]

theorem calls_succ (h : w.startCheck.1.Calm v)
    (hnow : v.now = w.now + ((w.answer 0).taken limit + rest)) (n : Nat) :
    calls rest limit v n ++ v.deeds = calls rest limit w (n + 1) ++ w.deeds := by
  induction n with
  | zero => exact deeds_calls_one h
  | succ n ih =>
    rw [calls, List.cons_append, ih, checkStart_succ h hnow, h.checks, w.startCheck_spec.2.2.1,
      show w.checks + 1 + n + 1 = w.checks + (n + 1) + 1 by omega]
    rfl

end

/-- A poll ends in `ended` after the check that is the `last`-th from `w` on, counted from zero. -/
structure EndsWith (limits : ReadinessConfig) (w : World) (last : Nat) (ended : World) : Prop where
  now : ended.now = checkEnd (sleepLength limits.interval) limits.requestTimeout w last
  deeds : ended.deeds =
    calls (sleepLength limits.interval) limits.requestTimeout w (last + 1) ++ w.deeds

namespace EndsWith

theorem zero (h : w.startCheck.1.Calm v)
    (hnow : v.now = w.now + (w.answer 0).taken limits.requestTimeout) :
    EndsWith limits w 0 v :=
  ⟨by rw [hnow, checkEnd, checkStart_zero], deeds_calls_one h⟩

theorem succ (h : w.startCheck.1.Calm v)
    (hnow : v.now =
      w.now + ((w.answer 0).taken limits.requestTimeout + sleepLength limits.interval))
    {last : Nat} {ended : World} (hends : EndsWith limits v last ended) :
    EndsWith limits w (last + 1) ended :=
  ⟨by rw [hends.now, checkEnd_succ h hnow], by rw [hends.deeds, calls_succ h hnow]⟩

end EndsWith

/-- A poll that has `a.max - a.count` checks left after the one it starts. The first to pass ends
it, and if none does, the last one. -/
theorem run_checks (limits : ReadinessConfig) (w : World) (a : Attempts) :
    ∃ last ended outcome,
      run limits (check limits w a).1 (check limits w a).2 = (ended, outcome) ∧
      EndsWith limits w last ended ∧ last ≤ a.max - a.count ∧
      (∀ i < last, (w.answer i).verdict limits.requestTimeout ≠ .ok ()) ∧
      ((w.answer last).verdict limits.requestTimeout = .ok () ∧
          outcome = .healthy (a.count + last) ∨
        (w.answer last).verdict limits.requestTimeout ≠ .ok () ∧ last = a.max - a.count ∧
          outcome = .exhausted (a.count + last)) := by
  cases hv : (w.answer 0).verdict limits.requestTimeout with
  | ok u =>
    obtain ⟨v, hnow, hcalm, hrun⟩ := run_check_passed (a := a) hv
    exact ⟨0, v, _, hrun, .zero hcalm hnow, Nat.zero_le _, nofun, .inl ⟨hv, rfl⟩⟩
  | error e =>
    have hfail : (w.answer 0).verdict limits.requestTimeout ≠ .ok () := by rw [hv]; exact nofun
    cases ha : a.isExhausted with
    | true =>
      obtain ⟨v, hnow, hcalm, hrun⟩ := run_check_spent hv ha
      have hspent : 0 = a.max - a.count := (Nat.sub_eq_zero_of_le (of_decide_eq_true ha)).symm
      exact ⟨0, v, _, hrun, .zero hcalm hnow, Nat.zero_le _, nofun, .inr ⟨hfail, hspent, rfl⟩⟩
    | false =>
      have hlt := Attempts.not_isExhausted ha
      obtain ⟨v, hnow, hcalm, hrun⟩ := run_check_again hv ha
      obtain ⟨last, ended, outcome, hrun', hends, hle, hbefore, hlast⟩ :=
        run_checks limits v a.record
      -- what the rest of the poll says of its checks holds of the same checks, counted from here
      rw [answer_succ hcalm] at hlast
      have hcount : a.record.count + last = a.count + (last + 1) := Nat.succ_add_eq_add_succ _ _
      have hleft : a.record.max - a.record.count + 1 = a.max - a.count := by
        change a.max - (a.count + 1) + 1 = a.max - a.count
        omega
      rw [hcount] at hlast
      refine ⟨last + 1, ended, outcome, hrun.trans hrun', .succ hcalm hnow hends, by omega, ?_, ?_⟩
      · intro i hi
        cases i with
        | zero => exact hfail
        | succ i =>
          rw [← answer_succ hcalm]
          exact hbefore i (Nat.lt_of_succ_lt_succ hi)
      · exact hlast.imp id fun ⟨hfail, hspent, ho⟩ => ⟨hfail, by omega, ho⟩
termination_by a.max - a.count
decreasing_by
  change a.max - (a.count + 1) < a.max - a.count
  omega

/-- The states that a poll passes through, from its start in `w`. -/
inductive Reached (limits : ReadinessConfig) (w : World) : World → Poll → Prop where
  | start : Reached limits w (start limits w).1 (start limits w).2
  | moved {v v' : World} {p p' : Poll} (h : step limits v p = .moved v' p') :
    Reached limits w v p → Reached limits w v' p'
  | waits {v : World} {p : Poll} (h : step limits v p = .blocked) :
    Reached limits w v p → Reached limits w (v.advanceTo p.due) p

/-- No more checks are counted than are allowed, or than the one there always is. -/
theorem Reached.attempts {p : Poll} (h : Reached limits w v p) :
    p.attempts.max = limits.maxAttempts ∧ p.attempts.count ≤ max 1 limits.maxAttempts := by
  induction h with
  | start => exact ⟨rfl, Nat.le_max_left _ _⟩
  | moved h _ ih =>
    obtain ⟨answer, deadline, e, -, -, hleft, -, rfl⟩ | ⟨wake, -, -, hc⟩ := step_eq_moved h
    · have hlt := Attempts.not_isExhausted hleft
      refine ⟨ih.1, ?_⟩
      change _ + 1 ≤ _
      omega
    · rw [check_eq] at hc
      rw [(Prod.mk.inj hc).2]
      exact ih
  | waits _ _ ih => exact ih

/-- How a poll that starts in `w` ends: with the first check that passes or, if none does, with the
last one allowed. The count of its checks stays within 32 bits if the allowance does. -/
theorem pollHealth_ends_with (limits : ReadinessConfig) (w : World)
    (apart : ∀ i < max 1 limits.maxAttempts, (w.answer i).delay? ≠ some limits.requestTimeout) :
    ∃ last ended outcome, pollHealth limits w = (ended, outcome) ∧
      (IsLeast {i | i < max 1 limits.maxAttempts ∧ (w.answer i).Passes limits.requestTimeout} last ∧
          outcome = .healthy (last + 1) ∨
        (∀ i < max 1 limits.maxAttempts, ¬(w.answer i).Passes limits.requestTimeout) ∧
          last + 1 = max 1 limits.maxAttempts ∧ outcome = .exhausted (max 1 limits.maxAttempts)) ∧
      ended.now = checkEnd (sleepLength limits.interval) limits.requestTimeout w last ∧
      ended.deeds =
        calls (sleepLength limits.interval) limits.requestTimeout w (last + 1) ++ w.deeds ∧
      (limits.maxAttempts < 2 ^ 32 → ∀ v p, Reached limits w v p → p.attempts.count < 2 ^ 32) := by
  obtain ⟨last, ended, outcome, hrun, hends, hle, hbefore, hlast⟩ :=
    run_checks limits w (Attempts.new limits.maxAttempts).record
  change last ≤ limits.maxAttempts - 1 at hle
  have hpasses (i : Nat) (hi : i ≤ last) : (w.answer i).verdict limits.requestTimeout = .ok () ↔
      (w.answer i).Passes limits.requestTimeout :=
    HealthAnswer.verdict_eq_ok_iff (apart i (by omega))
  refine ⟨last, ended, outcome, hrun, ?_, hends.now, hends.deeds, fun hmax v p hp => ?_⟩
  · rcases hlast with ⟨hok, ho⟩ | ⟨hfail, hspent, ho⟩
    · refine .inl ⟨⟨⟨by omega, (hpasses last le_rfl).1 hok⟩, fun i hi => ?_⟩, ?_⟩
      · by_contra hlt
        have hlt : i < last := Nat.lt_of_not_le hlt
        exact hbefore i hlt ((hpasses i (Nat.le_of_lt hlt)).2 hi.2)
      · rw [ho, Nat.add_comm]
        rfl
    · change last = limits.maxAttempts - 1 at hspent
      refine .inr ⟨fun i hi hpass => ?_, by omega, ?_⟩
      · rcases Nat.eq_or_lt_of_le (show i ≤ last by omega) with rfl | hlt
        · exact hfail ((hpasses i le_rfl).2 hpass)
        · exact hbefore i hlt ((hpasses i (Nat.le_of_lt hlt)).2 hpass)
      · rw [ho]
        change PollOutcome.exhausted (1 + last) = _
        rw [show 1 + last = max 1 limits.maxAttempts by omega]
  · have := hp.attempts.2
    omega

/-- A world that answers with a failure, not at all, and then with a success. -/
def hesitant : World :=
  { World.empty with health := [.after 2 (.error (.status 500)), .silent, .after 4 (.ok ())] }

/-- The second check is given up after 50 milliseconds, and the third one passes. -/
theorem hesitant_healthy : (∀ i < 5, (hesitant.answer i).delay? ≠ some 50) ∧
    ∃ ended, pollHealth ⟨"/", [], 5, 100, 50, 30000⟩ hesitant = (ended, .healthy 3) ∧
      ended.now = 256 ∧
      ended.deeds = [(252, .healthCall 3), (102, .healthCall 2), (0, .healthCall 1)] := by
  have apart : ∀ i < 5, (hesitant.answer i).delay? ≠ some 50 := by decide
  obtain ⟨last, ended, outcome, hrun, hlast, hnow, hdeeds, -⟩ :=
    pollHealth_ends_with ⟨"/", [], 5, 100, 50, 30000⟩ hesitant apart
  have hthird : 2 < 5 ∧ (hesitant.answer 2).Passes 50 := by decide
  have htwo : last = 2 ∧ outcome = .healthy (last + 1) := by
    rcases hlast with ⟨⟨hmem, hleast⟩, ho⟩ | ⟨hnone, -⟩
    · have hle : last ≤ 2 := hleast hthird
      have hearly : ∀ i < 2, ¬(hesitant.answer i).Passes 50 := by decide
      exact ⟨Nat.le_antisymm hle (Nat.le_of_not_lt fun h => hearly last h hmem.2), ho⟩
    · exact absurd hthird.2 (hnone 2 hthird.1)
  obtain ⟨rfl, rfl⟩ := htwo
  exact ⟨apart, ended, hrun, hnow, hdeeds⟩

/-- A world in which the third check passes. -/
def reluctant : World :=
  { World.empty with health := [.after 2 (.error (.status 500)),
      .after 3 (.error (.status 503)), .after 4 (.ok ())] }

/-- More of a rest than a sleep lasts. -/
def drowsy : ReadinessConfig :=
  { ReadinessConfig.default with
    interval := 1000000000000
    maxAttempts := 3 }

/-- A rest of more than thirty years ends after thirty, so the checks after it come early. -/
theorem rest_cut_short : (∀ i, (reluctant.answer i).delay? ≠ some drowsy.requestTimeout) ∧
    IsLeast {i | i < 3 ∧ (reluctant.answer i).Passes drowsy.requestTimeout} 2 ∧
    checkEnd drowsy.interval drowsy.requestTimeout reluctant 2 = 2000000000009 ∧
    ∃ ended, pollHealth drowsy reluctant = (ended, .healthy 3) ∧ ended.now = 1892160000009 := by
  have hearly : ∀ i < 2, (reluctant.answer i).verdict drowsy.requestTimeout ≠ .ok () := by
    intro i hi
    match i, hi with
    | 0, _ => exact nofun
    | 1, _ => exact nofun
  obtain ⟨last, ended, outcome, hrun, hends, hle, hbefore, hlast⟩ :=
    run_checks drowsy reluctant (Attempts.new drowsy.maxAttempts).record
  have htwo : last = 2 := by
    refine Nat.le_antisymm hle (Nat.le_of_not_lt fun h => ?_)
    rcases hlast with ⟨hok, -⟩ | ⟨-, hspent, -⟩
    · exact hearly last h hok
    · change last = 2 at hspent
      omega
  subst htwo
  refine ⟨fun i => ?_, ⟨by decide, fun i hi => ?_⟩, by decide, ended, ?_, hends.now⟩
  · match i with
    | 0 | 1 => decide
    | i + 2 => rw [show reluctant.answer (i + 2) = _ from answerOf_singleton _ i]; decide
  · have hnone : ∀ i < 2, ¬(reluctant.answer i).Passes drowsy.requestTimeout := by decide
    exact Nat.le_of_not_lt fun h => hnone i h hi.2
  · rcases hlast with ⟨-, rfl⟩ | ⟨hfail, -⟩
    · exact hrun
    · exact absurd rfl hfail

end Poll

end DesktopHost
