import DesktopHost.Lifecycle
import Mathlib.Data.List.Basic
import Mathlib.Tactic.Common

/-!
Histories of the machine: any requests, one after the other, and what each of them came to. A
history is cut into stretches by the cycles that begin in it. Within a stretch states only rise, so
few requests can be granted there, and none once the machine has come to an end.
-/

set_option autoImplicit false

namespace DesktopHost

namespace LifecycleState

/-- How many more steps a cycle can take from a state. -/
def room (s : LifecycleState) : Nat := if s.isTerminal then 0 else 6 - s.rank

theorem room_le (s : LifecycleState) : s.room ≤ 6 := by cases s <;> decide

theorem room_lt_of_mayGo {s t : LifecycleState} (h : s.mayGo t = true) : t.room < s.room := by
  revert h
  cases s <;> cases t <;> decide

theorem mayBegin_iff (s : LifecycleState) :
    s.mayBegin = true ↔ s ≠ .starting ∧ s ≠ .probing ∧ s ≠ .shuttingDown := by
  cases s <;> decide

end LifecycleState

namespace Machine

/-- What a machine can be asked to do. -/
inductive Request where
  | beginCycle
  | advance (next : LifecycleState)
  | fail
  deriving DecidableEq, Repr

/-- What it answers. A machine that is asked to fail only tells whether it did. -/
inductive Answer where
  | begun
  | left (source : LifecycleState)
  | told (done : Bool)
  | refused (r : Refusal)
  deriving DecidableEq, Repr

def Answer.isGrant : Answer → Bool
  | .begun | .left _ => true
  | .told done => done
  | .refused _ => false

def perform (m : Machine) : Request → Answer × Machine
  | .beginCycle =>
    match m.beginCycle with
    | .ok m' => (.begun, m')
    | .error r => (.refused r, m)
  | .advance next =>
    match m.advance next with
    | .ok m' => (.left m.state, m')
    | .error r => (.refused r, m)
  | .fail => (.told m.fail.2, m.fail.1)

/-- One request of a history, with the machine before and after it. -/
structure Turn where
  before : Machine
  request : Request
  answer : Answer
  after : Machine
  deriving DecidableEq, Repr

def turn (m : Machine) (q : Request) : Turn := ⟨m, q, (m.perform q).1, (m.perform q).2⟩

namespace Turn

def isGranted (t : Turn) : Bool := t.answer.isGrant

/-- Whether a cycle begins here. -/
def begins (t : Turn) : Bool := t.request == .beginCycle && t.isGranted

/-- All that a request can come to. -/
inductive Lawful : Turn → Prop
  | begun {m : Machine} (may : m.state.mayBegin = true) :
      Lawful ⟨m, .beginCycle, .begun, ⟨.starting, m.cycle + 1⟩⟩
  | notBegun {m : Machine} (may : m.state.mayBegin = false) :
      Lawful ⟨m, .beginCycle, .refused ⟨m.state, .starting⟩, m⟩
  | advanced {m : Machine} {next : LifecycleState} (may : m.state.mayGo next = true) :
      Lawful ⟨m, .advance next, .left m.state, ⟨next, m.cycle⟩⟩
  | notAdvanced {m : Machine} {next : LifecycleState} (may : m.state.mayGo next = false) :
      Lawful ⟨m, .advance next, .refused ⟨m.state, next⟩, m⟩
  | failed {m : Machine} (may : m.state.mayGo .failed = true) :
      Lawful ⟨m, .fail, .told true, ⟨.failed, m.cycle⟩⟩
  | notFailed {m : Machine} (may : m.state.mayGo .failed = false) :
      Lawful ⟨m, .fail, .told false, m⟩

end Turn

theorem turn_lawful (m : Machine) (q : Request) : (m.turn q).Lawful := by
  cases q with
  | beginCycle =>
    cases h : m.state.mayBegin <;> simp only [turn, perform, Machine.beginCycle, h]
    · exact .notBegun h
    · exact .begun h
  | advance next =>
    cases h : m.state.mayGo next <;> simp only [turn, perform, Machine.advance, h]
    · exact .notAdvanced h
    · exact .advanced h
  | fail =>
    cases h : m.state.mayGo .failed <;> simp only [turn, perform, Machine.fail, Machine.advance, h]
    · exact .notFailed h
    · exact .failed h

def history (m : Machine) : List Request → List Turn
  | [] => []
  | q :: r => m.turn q :: (m.turn q).after.history r

/-- The machine after a series of requests. -/
def reached (m : Machine) (qs : List Request) : Machine := qs.foldl (fun m q => (m.turn q).after) m

theorem reached_append (m : Machine) (past rest : List Request) :
    m.reached (past ++ rest) = (m.reached past).reached rest := List.foldl_append

theorem history_append (m : Machine) (past rest : List Request) :
    m.history (past ++ rest) = m.history past ++ (m.reached past).history rest := by
  induction past generalizing m with
  | nil => rfl
  | cons q r ih => exact congrArg (m.turn q :: ·) (ih _)

/-- The states that the granted requests of a history led to. -/
def visited (ts : List Turn) : List LifecycleState :=
  (ts.filter Turn.isGranted).map (·.after.state)

theorem visited_cons (t : Turn) (ts : List Turn) :
    visited (t :: ts) = if t.isGranted then t.after.state :: visited ts else visited ts := by
  cases h : t.isGranted <;> simp [visited, h]

theorem lawful_of_mem {m : Machine} {qs : List Request} {t : Turn} (h : t ∈ m.history qs) :
    t.Lawful := by
  induction qs generalizing m with
  | nil => cases h
  | cons q r ih =>
    rcases List.mem_cons.1 h with rfl | h
    · exact turn_lawful m q
    · exact ih h

namespace Turn.Lawful

variable {t : Turn}

/-- A refused request leaves everything as it was. -/
theorem refused_cases (h : t.Lawful) (hr : t.isGranted = false) : t.after = t.before ∧
    (t.request = .fail ∧ t.answer = .told false ∨
      ∃ target, t.answer = .refused ⟨t.before.state, target⟩) := by
  cases h with
  | begun | advanced | failed => cases hr
  | notBegun | notAdvanced => exact ⟨rfl, .inr ⟨_, rfl⟩⟩
  | notFailed => exact ⟨rfl, .inl ⟨rfl, rfl⟩⟩

theorem cycle_eq (h : t.Lawful) :
    t.after.cycle = t.before.cycle + if t.begins then 1 else 0 := by
  cases h <;> rfl

theorem isGranted_iff (h : t.Lawful) (hq : t.request = .beginCycle) :
    t.isGranted = true ↔ t.before.state.mayBegin = true := by
  cases h with
  | begun may => exact iff_of_true rfl may
  | notBegun may => exact iff_of_false nofun (by rw [may]; nofun)
  | advanced | notAdvanced | failed | notFailed => cases hq

theorem starting_of_begins (h : t.Lawful) (hb : t.begins = true) : t.after.state = .starting := by
  cases h with
  | begun => rfl
  | notBegun | advanced | notAdvanced | failed | notFailed => cases hb

/-- A request that is granted and begins no cycle is a step within one. -/
theorem mayGo_of_granted (h : t.Lawful) (hg : t.isGranted = true) (hb : t.begins = false) :
    t.before.state.mayGo t.after.state = true := by
  cases h with
  | advanced may | failed may => exact may
  | begun => cases hb
  | notBegun | notAdvanced | notFailed => cases hg

end Turn.Lawful

/-- The cycles begun are counted, and nothing else is. -/
theorem cycle_reached (m : Machine) (qs : List Request) :
    (m.reached qs).cycle = m.cycle + (m.history qs).countP Turn.begins := by
  induction qs generalizing m with
  | nil => rfl
  | cons q r ih =>
    have hstep : (m.turn q).after.cycle = m.cycle + if (m.turn q).begins then 1 else 0 :=
      (turn_lawful m q).cycle_eq
    have hrest : (m.reached (q :: r)).cycle = ((m.turn q).after.reached r).cycle := rfl
    rw [hrest, ih, hstep, history, List.countP_cons]
    omega

theorem countP_begins_le (m : Machine) (qs : List Request) :
    (m.history qs).countP Turn.begins ≤ qs.count .beginCycle := by
  induction qs generalizing m with
  | nil => exact Nat.le_refl _
  | cons q r ih =>
    have hr := ih (m.turn q).after
    have hq : (if (m.turn q).begins then 1 else 0) ≤ if q == .beginCycle then 1 else 0 := by
      cases h : q == .beginCycle <;> simp [Turn.begins, turn, h]
      split <;> omega
    rw [history, List.countP_cons, List.count_cons]
    omega

section Stretch

/-- No cycle begins among these requests. -/
def Unbroken (m : Machine) (qs : List Request) : Prop := ∀ t ∈ m.history qs, t.begins = false

variable {m : Machine} {q : Request} {qs : List Request}

/-- Within a stretch a request leaves the machine as it is, or takes it a step up. -/
theorem unbroken_cons (h : m.Unbroken (q :: qs)) : (m.turn q).after.Unbroken qs ∧
    ((m.turn q).isGranted = false ∧ (m.turn q).after = m ∨
      (m.turn q).isGranted = true ∧ m.state.mayGo (m.turn q).after.state = true) := by
  have hlawful := turn_lawful m q
  refine ⟨fun t ht => h t (List.mem_cons_of_mem _ ht), ?_⟩
  cases hg : (m.turn q).isGranted with
  | false => exact .inl ⟨rfl, (hlawful.refused_cases hg).1⟩
  | true => exact .inr ⟨rfl, hlawful.mayGo_of_granted hg (h _ List.mem_cons_self)⟩

theorem visited_rises (h : m.Unbroken qs) :
    (m.state :: visited (m.history qs)).Pairwise (·.rank < ·.rank) := by
  induction qs generalizing m with
  | nil => exact List.pairwise_singleton _ _
  | cons q r ih =>
    obtain ⟨hr, ⟨hg, hsame⟩ | ⟨hg, hgo⟩⟩ := unbroken_cons h
    · rw [history, visited_cons, hg, hsame]
      rw [hsame] at hr
      exact ih hr
    · rw [history, visited_cons, if_pos hg]
      have hrest := ih hr
      have hlt := LifecycleState.rank_lt_of_mayGo hgo
      refine List.pairwise_cons.2 ⟨fun s hs => ?_, hrest⟩
      rcases List.mem_cons.1 hs with rfl | hs
      · exact hlt
      · exact Nat.lt_trans hlt ((List.pairwise_cons.1 hrest).1 s hs)

theorem visited_length (h : m.Unbroken qs) :
    (visited (m.history qs)).length ≤ m.state.room := by
  induction qs generalizing m with
  | nil => exact Nat.zero_le _
  | cons q r ih =>
    obtain ⟨hr, ⟨hg, hsame⟩ | ⟨hg, hgo⟩⟩ := unbroken_cons h
    · rw [history, visited_cons, hg, hsame]
      rw [hsame] at hr
      exact ih hr
    · rw [history, visited_cons, if_pos hg, List.length_cons]
      have hlt := LifecycleState.room_lt_of_mayGo hgo
      have := ih hr
      omega

/-- An ended machine refuses all that begins no cycle. -/
theorem refused_of_ended (h : m.Unbroken qs) (hend : m.state.isTerminal = true) :
    ∀ t ∈ m.history qs, t.isGranted = false := by
  have hroom : m.state.room = 0 := if_pos hend
  have hnone : visited (m.history qs) = [] :=
    List.eq_nil_of_length_eq_zero (Nat.le_zero.1 (hroom ▸ visited_length h))
  simpa [visited] using hnone

end Stretch

/-- A machine asked anything, in any order. What it refuses changes nothing; it counts the cycles
it begins; between two of them its states rise, in at most six steps, and an end is final. -/
theorem history_lawful (qs : List Request) :
    (∀ t ∈ new.history qs, t.isGranted = false → t.after = t.before ∧
      (t.request = .fail ∧ t.answer = .told false ∨
        ∃ target, t.answer = .refused ⟨t.before.state, target⟩)) ∧
    (new.reached qs).cycle = (new.history qs).countP Turn.begins ∧
    (∀ t ∈ new.history qs, t.after.cycle = t.before.cycle + if t.begins then 1 else 0) ∧
    (qs.count .beginCycle < Nat.pow 2 32 → (new.reached qs).cycle < Nat.pow 2 32) ∧
    (∀ past stretch rest, qs = past ++ stretch ++ rest →
      let m := new.reached past
      new.history qs = new.history past ++ m.history stretch ++ (m.reached stretch).history rest ∧
        (m.Unbroken stretch →
          (m.state :: visited (m.history stretch)).Pairwise (·.rank < ·.rank) ∧
          (visited (m.history stretch)).length ≤ 6 ∧
          (m.state.isTerminal = true → ∀ t ∈ m.history stretch, t.isGranted = false))) ∧
    (∀ t ∈ new.history qs, t.request = .beginCycle →
      (t.isGranted = true ↔ t.before.state ≠ .starting ∧ t.before.state ≠ .probing ∧
        t.before.state ≠ .shuttingDown) ∧
      (t.isGranted = true → t.after.state = .starting)) := by
  have hcycle : (new.reached qs).cycle = (new.history qs).countP Turn.begins := by
    simpa [new] using cycle_reached new qs
  refine ⟨fun t ht => (lawful_of_mem ht).refused_cases, hcycle,
    fun t ht => (lawful_of_mem ht).cycle_eq, fun hcount => ?_, ?_,
    fun t ht hq => ⟨?_, fun hg => ?_⟩⟩
  · rw [hcycle]
    exact Nat.lt_of_le_of_lt (countP_begins_le new qs) hcount
  · rintro past stretch rest rfl
    refine ⟨?_, fun h => ⟨visited_rises h, ?_, refused_of_ended h⟩⟩
    · rw [history_append, history_append, reached_append]
    · exact Nat.le_trans (visited_length h) (LifecycleState.room_le _)
  · exact ((lawful_of_mem ht).isGranted_iff hq).trans (LifecycleState.mayBegin_iff _)
  · have hb : t.begins = true := by simp [Turn.begins, hq, hg]
    exact (lawful_of_mem ht).starting_of_begins hb

/-- A machine that will not fail says no, and does not say where it stands. -/
theorem refused_fail_names_no_state : ¬∀ qs, ∀ t ∈ new.history qs, t.isGranted = false →
    ∃ target, t.answer = .refused ⟨t.before.state, target⟩ := by
  intro h
  obtain ⟨target, ht⟩ := h [.fail, .fail] ⟨⟨.failed, 0⟩, .fail, .told false, ⟨.failed, 0⟩⟩
    (by decide) rfl
  cases ht

end Machine
end DesktopHost
