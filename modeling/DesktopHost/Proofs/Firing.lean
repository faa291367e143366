import DesktopHost.Readiness.Latch
import Mathlib.Data.List.Basic
import Mathlib.Tactic.Common

/-!
A latch and its receiver, asked in any order. What they answer is told by the steps alone: the latch
fires at the first line with a marker that it is offered, and a receiver that is still there finds
the match from then on, whatever became of the latch. A task that awaits the match looks only when
it is woken, and misses nothing.
-/

set_option autoImplicit false

namespace DesktopHost

def HoldsMarker (markers : List String) (line : String) : Prop :=
  ∃ m ∈ markers, m.toList <:+: line.toList

theorem lineSignalsReady_iff (markers : List String) (line : String) :
    lineSignalsReady markers line = true ↔ HoldsMarker markers line := by
  simp [lineSignalsReady, HoldsMarker, occurs_iff]

namespace LatchStep

section

variable (markers : List String) (steps : List LatchStep)

/-- Step `i` offers the latch a line with a marker, and no step before it did. -/
structure FiresAt (i : Nat) : Prop where
  marked : ∃ line, steps[i]? = some (.observe line) ∧ HoldsMarker markers line
  offered : .dropLatch ∉ steps.take i
  first : ∀ line, .observe line ∈ steps.take i → ¬HoldsMarker markers line

def FiredBefore (k : Nat) : Prop := ∃ i < k, FiresAt markers steps i

/-- Before step `k` the receiver was not dropped, and no look at it found the match. -/
structure WaitsAt (k : Nat) : Prop where
  kept : .dropReceiver ∉ steps.take k
  unused : ∀ i < k, steps[i]? = some .poll → ¬FiredBefore markers steps i

end

variable {markers : List String} {steps : List LatchStep} {s : LatchStep} {i j k : Nat}

theorem mem_take_succ :
    s ∈ steps.take (k + 1) ↔ s ∈ steps.take k ∨ steps[k]? = some s := by
  simp [List.take_add_one]

theorem not_mem_take_of_le (h : s ∉ steps.take k) (hjk : j ≤ k) : s ∉ steps.take j := fun hmem =>
  h (List.take_subset_take_left steps hjk hmem)

theorem FiresAt.not_lt (hi : FiresAt markers steps i) (hj : FiresAt markers steps j) : ¬i < j := by
  intro hij
  obtain ⟨line, hline, hm⟩ := hi.marked
  have hmem : .observe line ∈ steps.take j :=
    List.mem_of_getElem? (List.getElem?_take_of_lt hij ▸ hline)
  exact hj.first line hmem hm

theorem FiresAt.unique (hi : FiresAt markers steps i) (hj : FiresAt markers steps j) : i = j := by
  have hij := hi.not_lt hj
  have hji := hj.not_lt hi
  omega

theorem firedBefore_zero : ¬FiredBefore markers steps 0 := by simp [FiredBefore]

theorem firedBefore_succ :
    FiredBefore markers steps (k + 1) ↔ FiredBefore markers steps k ∨ FiresAt markers steps k := by
  simp only [FiredBefore, Nat.lt_succ_iff_lt_or_eq, or_and_right, exists_or, exists_eq_left]

theorem WaitsAt.mono (h : WaitsAt markers steps k) (hjk : j ≤ k) : WaitsAt markers steps j where
  kept := not_mem_take_of_le h.kept hjk
  unused i hi := h.unused i (by omega)

theorem waitsAt_zero : WaitsAt markers steps 0 := ⟨by simp, by simp⟩

theorem waitsAt_succ : WaitsAt markers steps (k + 1) ↔ WaitsAt markers steps k ∧
    steps[k]? ≠ some .dropReceiver ∧
    (steps[k]? = some .poll → ¬FiredBefore markers steps k) := by
  constructor
  · intro h
    have hkept := h.kept
    rw [mem_take_succ, not_or] at hkept
    exact ⟨h.mono (by omega), hkept.2, h.unused k (by omega)⟩
  · rintro ⟨h, hdrop, hpoll⟩
    refine ⟨by simp [mem_take_succ, h.kept, hdrop], fun i hi => ?_⟩
    obtain hi | rfl := Nat.lt_succ_iff_lt_or_eq.1 hi
    · exact h.unused i hi
    · exact hpoll

/-- As long as the latch is there, a line with a marker that it was offered has made it fire. -/
theorem firedBefore_of_mem {line : String} (hlatch : .dropLatch ∉ steps.take k)
    (hmem : .observe line ∈ steps.take k) (hm : HoldsMarker markers line) :
    FiredBefore markers steps k := by
  induction k generalizing line with
  | zero => simp at hmem
  | succ k ih =>
    have hbefore := not_mem_take_of_le hlatch (Nat.le_succ k)
    rw [firedBefore_succ]
    -- a latch that has not fired was offered no such line before, so step `k` offers the first
    by_contra hnot
    obtain ⟨hfired, hfires⟩ := not_or.1 hnot
    have hnone : ∀ l, .observe l ∈ steps.take k → ¬HoldsMarker markers l :=
      fun l hl hlm => hfired (ih hbefore hl hlm)
    obtain hold | hs := mem_take_succ.1 hmem
    · exact hnone line hold hm
    · exact hfires ⟨⟨line, hs, hm⟩, hbefore, hnone⟩

theorem firesAt_iff : FiresAt markers steps k ↔ ∃ line, steps[k]? = some (.observe line) ∧
    HoldsMarker markers line ∧ .dropLatch ∉ steps.take k ∧ ¬FiredBefore markers steps k := by
  constructor
  · intro h
    obtain ⟨line, hline, hm⟩ := h.marked
    refine ⟨line, hline, hm, h.offered, ?_⟩
    rintro ⟨i, hi, hf⟩
    exact hf.not_lt h hi
  · rintro ⟨line, hline, hm, hlatch, hfired⟩
    exact ⟨⟨line, hline, hm⟩, hlatch, fun l hl hlm => hfired (firedBefore_of_mem hlatch hl hlm)⟩

/-- A step that offers no line fires nothing. -/
theorem firedBefore_succ_of_silent (hs : ∀ line, steps[k]? ≠ some (.observe line)) :
    FiredBefore markers steps (k + 1) ↔ FiredBefore markers steps k := by
  rw [firedBefore_succ, or_iff_left]
  rintro ⟨⟨line, hline, -⟩, -, -⟩
  exact hs line hline

end LatchStep

namespace LatchChannel

open LatchStep

/-- The channel after a series of steps. -/
def reached (c : LatchChannel) (steps : List LatchStep) : LatchChannel :=
  steps.foldl (fun c s => (c.step s).1) c

theorem reached_append (c : LatchChannel) (past rest : List LatchStep) :
    c.reached (past ++ rest) = (c.reached past).reached rest := List.foldl_append

theorem length_history (c : LatchChannel) (steps : List LatchStep) :
    (c.history steps).length = steps.length := by
  induction steps generalizing c with
  | nil => rfl
  | cons s rest ih => simp [history, ih]

theorem getElem?_history (c : LatchChannel) (steps : List LatchStep) (i : Nat) :
    (c.history steps)[i]? = steps[i]?.map fun s =>
      (((c.reached (steps.take i)).step s).2, ((c.reached (steps.take i)).step s).1.isFired) := by
  induction steps generalizing c i with
  | nil => simp [history]
  | cons s rest ih =>
    cases i with
    | zero => simp [history, reached]
    | succ i => simp [history, reached, ih]

theorem poll_fst (c : LatchChannel) : c.poll.1 = { c with waiting := c.waiting && !c.sent } := by
  obtain ⟨latch, waiting, sent⟩ := c
  cases waiting <;> cases sent <;> rfl

variable {markers : List String} {steps : List LatchStep} {s : LatchStep} {k : Nat}
  {c : LatchChannel}

theorem step_observed_iff (hit : Bool) : (c.step s).2 = .observed (some hit) ↔
    ∃ line, s = .observe line ∧ (c.observe line).2 = some hit := by
  cases s <;> simp [step]

theorem step_polled_iff (p : LatchPoll) : (c.step s).2 = .polled p ↔ s = .poll ∧ c.poll.2 = p := by
  cases s <;> simp [step]

theorem poll_eq_matched_iff : c.poll.2 = .matched ↔ c.waiting = true ∧ c.sent = true := by
  cases hw : c.waiting <;> cases hs : c.sent <;> simp [poll, hw, hs]

/-- Both halves stand as the steps before `k` tell. -/
structure StandsAt (markers : List String) (steps : List LatchStep) (k : Nat) (c : LatchChannel) :
    Prop where
  latch : c.latch = if .dropLatch ∈ steps.take k then none else some ⟨markers, c.sent⟩
  sent : c.sent = true ↔ FiredBefore markers steps k
  waiting : c.waiting = true ↔ WaitsAt markers steps k

namespace StandsAt

theorem observe_gone (h : StandsAt markers steps k c) (hgone : .dropLatch ∈ steps.take k)
    (line : String) : c.observe line = (c, none) := by
  simp [LatchChannel.observe, h.latch, hgone]

theorem observe_there (h : StandsAt markers steps k c) (hthere : .dropLatch ∉ steps.take k)
    {line : String} (hs : steps[k]? = some (.observe line)) :
    ∃ hit, c.observe line = ({ c with
      latch := some ⟨markers, c.sent || hit⟩
      sent := c.sent || hit }, some hit) ∧ (hit = true ↔ FiresAt markers steps k) := by
  refine ⟨!c.sent && lineSignalsReady markers line, ?_, ?_⟩
  · cases hsent : c.sent <;> cases hm : lineSignalsReady markers line <;>
      simp [LatchChannel.observe, Latch.observe, h.latch, hthere, hsent, hm]
  · have hsent := h.sent
    rw [firesAt_iff]
    cases hc : c.sent <;> simp_all [lineSignalsReady_iff]

theorem observe_snd_iff (h : StandsAt markers steps k c) {line : String}
    (hs : steps[k]? = some (.observe line)) (hit : Bool) : (c.observe line).2 = some hit ↔
      .dropLatch ∉ steps.take k ∧ (hit = true ↔ FiresAt markers steps k) := by
  by_cases hgone : .dropLatch ∈ steps.take k
  · simp [h.observe_gone hgone, hgone]
  · obtain ⟨hit', hobserve, hhit⟩ := h.observe_there hgone hs
    rw [hobserve, ← hhit]
    cases hit <;> cases hit' <;> simp [hgone]

theorem poll_iff (h : StandsAt markers steps k c) (p : LatchPoll) : c.poll.2 = p ↔
    (p = .matched ↔ WaitsAt markers steps k ∧ FiredBefore markers steps k) ∧
      (p = .noReceiver ↔ ¬WaitsAt markers steps k) := by
  rw [← h.waiting, ← h.sent]
  cases p <;> cases hw : c.waiting <;> cases hs : c.sent <;> simp [LatchChannel.poll, hw, hs]

theorem isFired_iff (h : StandsAt markers steps k c) (fired : Bool) : c.isFired = some fired ↔
    .dropLatch ∉ steps.take k ∧ (fired = true ↔ FiredBefore markers steps k) := by
  rw [← h.sent, LatchChannel.isFired, h.latch]
  by_cases hgone : .dropLatch ∈ steps.take k <;>
    cases fired <;> cases hs : c.sent <;> simp [hgone]

/-- A step that offers no line leaves what was sent as it was. -/
theorem of_silent (h : StandsAt markers steps k c) (hs : ∀ line, steps[k]? ≠ some (.observe line))
    {c' : LatchChannel} (hsent : c'.sent = c.sent)
    (hlatch : c'.latch = if .dropLatch ∈ steps.take (k + 1) then none else some ⟨markers, c.sent⟩)
    (hwaiting : c'.waiting = true ↔ WaitsAt markers steps (k + 1)) :
    StandsAt markers steps (k + 1) c' where
  latch := hsent ▸ hlatch
  sent := by rw [hsent, h.sent, firedBefore_succ_of_silent hs]
  waiting := hwaiting

/-- What a step leaves of the two halves. -/
theorem step (h : StandsAt markers steps k c) (hs : steps[k]? = some s) :
    StandsAt markers steps (k + 1) (c.step s).1 := by
  cases s with
  | observe line =>
    have hwaiting : c.waiting = true ↔ WaitsAt markers steps (k + 1) := by
      simp [waitsAt_succ, hs, h.waiting]
    by_cases hgone : .dropLatch ∈ steps.take k
    · have hfires : ¬FiresAt markers steps k := fun hf => hf.offered hgone
      rw [LatchChannel.step, h.observe_gone hgone]
      refine ⟨?_, ?_, hwaiting⟩
      · simp [h.latch, mem_take_succ, hgone]
      · simp [h.sent, firedBefore_succ, hfires]
    · obtain ⟨hit, hobserve, hhit⟩ := h.observe_there hgone hs
      rw [LatchChannel.step, hobserve]
      refine ⟨?_, ?_, hwaiting⟩
      · simp [mem_take_succ, hgone, hs]
      · simp [h.sent, firedBefore_succ, hhit]
  | poll =>
    rw [LatchChannel.step, poll_fst]
    refine h.of_silent (by simp [hs]) rfl ?_ ?_
    · simp [h.latch, mem_take_succ, hs]
    · simp [waitsAt_succ, hs, h.waiting, ← h.sent]
  | dropReceiver =>
    refine h.of_silent (by simp [hs]) rfl ?_ ?_
    · simp [LatchChannel.step, dropReceiver, h.latch, mem_take_succ, hs]
    · simp [LatchChannel.step, dropReceiver, waitsAt_succ, hs]
  | dropLatch =>
    refine h.of_silent (by simp [hs]) rfl ?_ ?_
    · simp [LatchChannel.step, dropLatch, mem_take_succ, hs]
    · simp [LatchChannel.step, dropLatch, waitsAt_succ, hs, h.waiting]

/-- Past the last step nothing changes. -/
theorem past_end (h : StandsAt markers steps k c) (hs : steps[k]? = none) :
    StandsAt markers steps (k + 1) c := by
  refine h.of_silent (by simp [hs]) rfl ?_ ?_
  · simp [h.latch, mem_take_succ, hs]
  · simp [h.waiting, waitsAt_succ, hs]

/-- What any steps leave of the two halves. -/
theorem reached (markers : List String) (steps : List LatchStep) (k : Nat) :
    StandsAt markers steps k ((new markers).reached (steps.take k)) := by
  induction k with
  | zero => exact ⟨rfl, iff_of_false nofun firedBefore_zero, iff_of_true rfl waitsAt_zero⟩
  | succ k ih =>
    rw [List.take_add_one, reached_append]
    cases hs : steps[k]? with
    | some s => exact ih.step hs
    | none => exact ih.past_end hs

end StandsAt

/-- Whether a step wakes a task that waits: the latch fires, or it goes away without. -/
def wakes (c : LatchChannel) : LatchStep → Bool
  | .observe line => (c.observe line).2 == some true
  | .dropLatch => c.isFired == some false
  | .poll | .dropReceiver => false

/-- The number of steps until a task that awaits the match has found it. The task looks when it
begins and whenever it is woken. -/
def awaited (c : LatchChannel) (looks : Bool) (steps : List LatchStep) : Option Nat :=
  if looks && c.poll.2 == .matched then some 0
  else
    match steps with
    | [] => none
    | s :: rest => ((c.step s).1.awaited (c.wakes s) rest).map (· + 1)

theorem awaited_of_matched (h : c.poll.2 = .matched) : c.awaited true steps = some 0 := by
  unfold awaited
  simp [h]

theorem awaited_nil {looks : Bool} (h : c.poll.2 ≠ .matched) : c.awaited looks [] = none := by
  simp [awaited, h]

theorem awaited_cons {looks : Bool} (h : c.poll.2 ≠ .matched) (s : LatchStep)
    (rest : List LatchStep) : c.awaited looks (s :: rest) =
      ((c.step s).1.awaited (c.wakes s) rest).map (· + 1) := by
  simp [awaited, h]

/-- No match comes without waking the task. -/
theorem wakes_of_matched (hbefore : c.poll.2 ≠ .matched) (hafter : (c.step s).1.poll.2 = .matched) :
    c.wakes s = true := by
  rw [ne_eq, poll_eq_matched_iff] at hbefore
  rw [poll_eq_matched_iff] at hafter
  cases s with
  | observe line =>
    cases hl : c.latch with
    | none => simp_all [step, observe]
    | some l => simp_all [step, observe, wakes]
  | poll =>
    cases hw : c.waiting <;> cases hs : c.sent <;> simp_all [step, poll]
  | dropReceiver => simp [step, dropReceiver] at hafter
  | dropLatch => exact absurd hafter hbefore

/-- After `n` steps a look finds the match, and after fewer it does not. -/
def FoundAfter (c : LatchChannel) (steps : List LatchStep) (n : Nat) : Prop :=
  (c.reached (steps.take n)).poll.2 = .matched ∧
    ∀ m < n, (c.reached (steps.take m)).poll.2 ≠ .matched

theorem foundAfter_of_matched (h : c.poll.2 = .matched) (n : Nat) :
    c.FoundAfter steps n ↔ 0 = n := by
  constructor
  · rintro ⟨-, hnone⟩
    by_contra hn
    exact hnone 0 (by omega) h
  · rintro rfl
    exact ⟨h, fun m hm => by omega⟩

theorem not_foundAfter_nil (h : c.poll.2 ≠ .matched) (n : Nat) : ¬c.FoundAfter [] n := by
  rintro ⟨hmatched, -⟩
  rw [List.take_nil] at hmatched
  exact h hmatched

theorem foundAfter_cons (h : c.poll.2 ≠ .matched) (n : Nat) : c.FoundAfter (s :: steps) n ↔
    ∃ m, (c.step s).1.FoundAfter steps m ∧ m + 1 = n := by
  constructor
  · rintro ⟨hmatched, hnone⟩
    cases n with
    | zero => exact absurd hmatched h
    | succ n => exact ⟨n, ⟨hmatched, fun m hm => hnone (m + 1) (by omega)⟩, rfl⟩
  · rintro ⟨n, ⟨hmatched, hnone⟩, rfl⟩
    refine ⟨hmatched, fun m hm => ?_⟩
    cases m with
    | zero => exact h
    | succ m => exact hnone m (by omega)

/-- To look only when woken is as good as to look after each step. The invariant is that a task
which does not look now would find nothing. -/
theorem awaited_eq_some_iff {looks : Bool} (hlooks : looks = true ∨ c.poll.2 ≠ .matched)
    (n : Nat) : c.awaited looks steps = some n ↔ c.FoundAfter steps n := by
  induction steps generalizing c looks n with
  | nil =>
    by_cases hm : c.poll.2 = .matched
    · obtain rfl := hlooks.resolve_right (not_not.2 hm)
      rw [awaited_of_matched hm, foundAfter_of_matched hm, Option.some.injEq]
    · simp [awaited_nil hm, not_foundAfter_nil hm]
  | cons s rest ih =>
    by_cases hm : c.poll.2 = .matched
    · obtain rfl := hlooks.resolve_right (not_not.2 hm)
      rw [awaited_of_matched hm, foundAfter_of_matched hm, Option.some.injEq]
    · have hnext : c.wakes s = true ∨ (c.step s).1.poll.2 ≠ .matched :=
        or_iff_not_imp_right.2 fun hafter => wakes_of_matched hm (not_not.1 hafter)
      simp [awaited_cons hm, foundAfter_cons hm, ih hnext]

/-- When a task that begins to wait before step `k` has the match. -/
theorem awaited_reached (markers : List String) (steps : List LatchStep) (k n : Nat) :
    ((new markers).reached (steps.take k)).awaited true (steps.drop k) = some n ↔
      WaitsAt markers steps k ∧ .dropReceiver ∉ steps.take (k + n) ∧
        ∃ i, FiresAt markers steps i ∧ k + n = max k (i + 1) := by
  have hmatched (m : Nat) :
      (((new markers).reached (steps.take k)).reached ((steps.drop k).take m)).poll.2 = .matched ↔
        WaitsAt markers steps (k + m) ∧ FiredBefore markers steps (k + m) := by
    have h := StandsAt.reached markers steps (k + m)
    rw [← reached_append, ← List.take_add, poll_eq_matched_iff, h.waiting, h.sent]
  rw [awaited_eq_some_iff (.inl rfl)]
  simp only [FoundAfter, ne_eq, hmatched]
  constructor
  · rintro ⟨⟨hwaits, i, hi, hf⟩, hleast⟩
    refine ⟨hwaits.mono (by omega), hwaits.kept, i, hf, ?_⟩
    by_contra hne
    -- a look after fewer steps would have found the match
    refine hleast (max k (i + 1) - k) (by omega) ⟨hwaits.mono (by omega), i, by omega, hf⟩
  · rintro ⟨hwaits, hkept, i, hf, hn⟩
    have honly {j : Nat} (hj : FiredBefore markers steps j) : i < j := by
      obtain ⟨i', hi', hf'⟩ := hj
      rwa [hf.unique hf']
    refine ⟨⟨⟨hkept, fun j hj hp hfired => ?_⟩, i, by omega, hf⟩, fun m hm ⟨_, hfired⟩ => ?_⟩
    · have := honly hfired
      exact hwaits.unused j (by omega) hp hfired
    · have := honly hfired
      omega

example : (new ["up"]).awaited true [.poll, .observe "starting up", .dropLatch] = some 2 := by
  decide

example : (new ["up"]).awaited true [.dropLatch, .observe "starting up", .poll] = none := by
  decide

/-- A latch says yes to one line at most, the first with a marker, and has fired from then on. Who
still waits for the match finds it exactly if the latch has fired, whether it is still there or not.
A task that awaits the match, and is not dropped meanwhile, has it exactly if the latch ever fires:
by the step that fires it, or at once if that step is past. -/
theorem fires_once (markers : List String) (steps : List LatchStep) :
    let answers := ((new markers).history steps).map (·.1)
    let flags := ((new markers).history steps).map (·.2)
    answers.length = steps.length ∧
    (∀ i hit, answers[i]? = some (.observed (some hit)) ↔
      (∃ line, steps[i]? = some (.observe line)) ∧ .dropLatch ∉ steps.take i ∧
        (hit = true ↔ FiresAt markers steps i)) ∧
    (∀ i j : Nat, answers[i]? = some (.observed (some true)) →
      answers[j]? = some (.observed (some true)) → i = j) ∧
    (∀ i fired, flags[i]? = some (some fired) ↔
      i < steps.length ∧ .dropLatch ∉ steps.take (i + 1) ∧
        (fired = true ↔ FiredBefore markers steps (i + 1))) ∧
    (∀ i p, answers[i]? = some (.polled p) ↔ steps[i]? = some .poll ∧
      (p = .matched ↔ WaitsAt markers steps i ∧ FiredBefore markers steps i) ∧
      (p = .noReceiver ↔ ¬WaitsAt markers steps i)) ∧
    ∀ k n, ((new markers).reached (steps.take k)).awaited true (steps.drop k) = some n ↔
      WaitsAt markers steps k ∧ .dropReceiver ∉ steps.take (k + n) ∧
        ∃ i, FiresAt markers steps i ∧ k + n = max k (i + 1) := by
  intro answers flags
  have hstands (i : Nat) := StandsAt.reached markers steps i
  have hanswer (i : Nat) (a : LatchAnswer) : answers[i]? = some a ↔ ∃ s, steps[i]? = some s ∧
      (((new markers).reached (steps.take i)).step s).2 = a := by
    simp [answers, getElem?_history]
  have hobserved (i : Nat) (hit : Bool) : answers[i]? = some (.observed (some hit)) ↔
      (∃ line, steps[i]? = some (.observe line)) ∧ .dropLatch ∉ steps.take i ∧
        (hit = true ↔ FiresAt markers steps i) := by
    simp only [hanswer, step_observed_iff]
    constructor
    · rintro ⟨s, hs, line, rfl, hhit⟩
      exact ⟨⟨line, hs⟩, ((hstands i).observe_snd_iff hs hit).1 hhit⟩
    · rintro ⟨⟨line, hs⟩, hhit⟩
      exact ⟨_, hs, line, rfl, ((hstands i).observe_snd_iff hs hit).2 hhit⟩
  refine ⟨by simp [answers, length_history], hobserved, fun i j hi hj => ?_, fun i fired => ?_,
    fun i p => ?_, awaited_reached markers steps⟩
  · have hfi := ((hobserved i true).1 hi).2.2.1 rfl
    have hfj := ((hobserved j true).1 hj).2.2.1 rfl
    exact hfi.unique hfj
  · have hflag : flags[i]? = some (some fired) ↔ ∃ s, steps[i]? = some s ∧
        (((new markers).reached (steps.take i)).step s).1.isFired = some fired := by
      simp [flags, getElem?_history]
    rw [hflag]
    constructor
    · rintro ⟨s, hs, hfired⟩
      have hi := (List.getElem?_eq_some_iff.1 hs).1
      exact ⟨hi, (((hstands i).step hs).isFired_iff fired).1 hfired⟩
    · rintro ⟨hi, hfired⟩
      have hs := List.getElem?_eq_getElem hi
      exact ⟨_, hs, (((hstands i).step hs).isFired_iff fired).2 hfired⟩
  · simp only [hanswer, step_polled_iff, ← (hstands i).poll_iff]
    constructor
    · rintro ⟨s, hs, rfl, hp⟩
      exact ⟨hs, hp⟩
    · rintro ⟨hs, hp⟩
      exact ⟨_, hs, rfl, hp⟩

end LatchChannel
end DesktopHost
