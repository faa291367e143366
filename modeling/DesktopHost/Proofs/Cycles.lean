import DesktopHost.Proofs.Acts
import Mathlib.Algebra.BigOperators.Group.Finset.Basic

/-!
A list of acts cut into startup cycles, and the machine read off it again.
-/

set_option autoImplicit false

namespace DesktopHost

/-- How many cycles a list of acts, newest first, has seen begin. -/
def begun (acts : List Event) : Nat := acts.countP Event.isBegin

/-- The acts of cycle `n`, its beginning included; cycle 0 is all that came before the first. -/
def during (n : Nat) : List Event → List Event
  | [] => []
  | e :: r => if begun (e :: r) = n then e :: during n r else during n r

@[simp] theorem begun_nil : begun [] = 0 := rfl

theorem begun_append (new old : List Event) : begun (new ++ old) = begun new + begun old := by
  simp [begun]

theorem begun_of_quiet {es : List Event} (h : ∀ e ∈ es, e.isBegin = false) : begun es = 0 := by
  simpa [begun, List.countP_eq_zero] using h

theorem begun_cons_quiet {e : Event} (h : e.isBegin = false) (r : List Event) :
    begun (e :: r) = begun r := by
  simp [begun, h]

theorem begun_cons_begin (n : Nat) (r : List Event) :
    begun (.note (.cycleBegun n) :: r) = begun r + 1 :=
  List.countP_cons_of_pos rfl

theorem during_of_begun_lt {n : Nat} {r : List Event} (h : begun r < n) : during n r = [] := by
  induction r with
  | nil => rfl
  | cons e r ih =>
    have hle : begun r ≤ begun (e :: r) := by
      rw [show e :: r = [e] ++ r from rfl, begun_append]
      omega
    unfold during
    rw [if_neg (by omega)]
    exact ih (by omega)

theorem during_append {es : List Event} (h : ∀ e ∈ es, e.isBegin = false) (n : Nat)
    (r : List Event) :
    during n (es ++ r) = if begun r = n then es ++ during n r else during n r := by
  induction es with
  | nil => simp
  | cons e es ih =>
    have hes : ∀ x ∈ es, x.isBegin = false := fun x hx => h x (List.mem_cons_of_mem _ hx)
    have hb : begun (e :: (es ++ r)) = begun r := by
      rw [begun_cons_quiet (h e List.mem_cons_self), begun_append, begun_of_quiet hes]
      omega
    rw [List.cons_append, during, hb, ih hes]
    split <;> rfl

theorem during_begin (n k : Nat) (r : List Event) :
    during n (.note (.cycleBegun k) :: r) =
      if begun r + 1 = n then [.note (.cycleBegun k)] else during n r := by
  rw [during, begun_cons_begin]
  split
  · next h => rw [during_of_begun_lt (by omega)]
  · rfl

theorem during_sublist (n : Nat) (r : List Event) : (during n r).Sublist r := by
  induction r with
  | nil => exact List.Sublist.refl _
  | cons e r ih =>
    unfold during
    split
    · exact ih.cons_cons e
    · exact ih.cons e

/-- Every act belongs to one cycle, or came before the first. -/
theorem countP_eq_sum_during (p : Event → Bool) (r : List Event) :
    r.countP p = ∑ n ∈ Finset.range (begun r + 1), (during n r).countP p := by
  induction r with
  | nil => rfl
  | cons e r ih =>
    -- `e` belongs to the latest cycle, which it begins or goes on with
    by_cases he : e.isBegin = true
    · have hb : begun (e :: r) = begun r + 1 := by simp [begun, he]
      rw [hb, Finset.sum_range_succ, List.countP_cons, ih]
      have hsame : ∀ n ∈ Finset.range (begun r + 1),
          (during n (e :: r)).countP p = (during n r).countP p := by
        intro n hn
        have := Finset.mem_range.1 hn
        rw [during, hb, if_neg (by omega)]
      rw [Finset.sum_congr rfl hsame, during, hb, if_pos rfl, during_of_begun_lt (by omega),
        List.countP_cons]
      simp
    · have hb : begun (e :: r) = begun r := begun_cons_quiet (Bool.eq_false_iff.2 he) r
      rw [hb, Finset.sum_range_succ, List.countP_cons, ih, Finset.sum_range_succ]
      have hsame : ∀ n ∈ Finset.range (begun r),
          (during n (e :: r)).countP p = (during n r).countP p := by
        intro n hn
        have := Finset.mem_range.1 hn
        rw [during, hb, if_neg (by omega)]
      rw [Finset.sum_congr rfl hsame, during, hb, if_pos rfl, List.countP_cons]
      omega

namespace LifecycleState

/-- The steps of a session within a cycle, a part of those that its machine allows. -/
def leadsTo : LifecycleState → LifecycleState → Bool
  | .starting, .probing | .probing, .ready | .ready, .running => true
  | .probing, .shuttingDown | .ready, .shuttingDown | .running, .shuttingDown => true
  | .shuttingDown, .terminated => true
  | .starting, .failed | .probing, .failed | .ready, .failed | .running, .failed => true
  | _, _ => false

theorem mayGo_of_leadsTo {a b : LifecycleState} (h : a.leadsTo b = true) : a.mayGo b = true := by
  revert h
  cases a <;> cases b <;> decide

end LifecycleState

namespace Event

def isTransition : Event → Bool
  | .note (.transition ..) => true
  | _ => false

/-- A record that a session has no occasion for: a refused step of its machine, a second
shutdown, or an exit that had been asked for and comes in before the session is over. -/
def isSlip : Event → Bool
  | .note (.transitionRejected ..) | .note (.cannotBegin ..) | .note (.exitedAfterRequest ..)
  | .note (.shutdownSkipped _) | .note (.shutdownFinished .skipped) => true
  | _ => false

theorem cases_act (e : Event) : (∃ n, e = .note (.cycleBegun n)) ∨
    (∃ a b n, e = .note (.transition a b n)) ∨ e.isBegin = false ∧ e.isTransition = false := by
  cases e with
  | note n =>
    cases n with
    | cycleBegun n => exact .inl ⟨n, rfl⟩
    | transition a b n => exact .inr (.inl ⟨a, b, n, rfl⟩)
    | _ => exact .inr (.inr ⟨rfl, rfl⟩)
  | _ => exact .inr (.inr ⟨rfl, rfl⟩)

end Event

namespace Machine

/-- The machine after one more act, unless that is no act of a lawful cycle. -/
def follow (m : Machine) : Event → Option Machine
  | .note (.cycleBegun n) =>
    if m.state.mayBegin = true ∧ n = m.cycle + 1 then some ⟨.starting, n⟩ else none
  | .note (.transition a b n) =>
    if m = ⟨a, n⟩ ∧ a.leadsTo b = true then some ⟨b, n⟩ else none
  | e => if e.isSlip then none else some m

def replay (m : Machine) : List Event → Option Machine
  | [] => some m
  | e :: r => (m.replay r).bind (·.follow e)

theorem replay_append (m : Machine) (fs es : List Event) :
    m.replay (fs ++ es) = (m.replay es).bind (·.replay fs) := by
  induction fs with
  | nil => simp [replay]
  | cons e fs ih => simp [replay, ih, Option.bind_assoc]

theorem follow_transition {a b : LifecycleState} {n : Nat} (h : a.leadsTo b = true) :
    (⟨a, n⟩ : Machine).follow (.note (.transition a b n)) = some ⟨b, n⟩ := by
  simp [follow, h]

theorem follow_begin {m : Machine} (h : m.state.mayBegin = true) :
    m.follow (.note (.cycleBegun (m.cycle + 1))) = some ⟨.starting, m.cycle + 1⟩ := by
  simp [follow, h]

theorem follow_begin_eq_some {m m' : Machine} {n : Nat}
    (h : m.follow (.note (.cycleBegun n)) = some m') : n = m.cycle + 1 ∧ m' = ⟨.starting, n⟩ := by
  simp only [follow, Option.ite_none_right_eq_some, Option.some.injEq] at h
  exact ⟨h.1.2, h.2.symm⟩

theorem follow_transition_eq_some {m m' : Machine} {a b : LifecycleState} {n : Nat}
    (h : m.follow (.note (.transition a b n)) = some m') :
    m = ⟨a, n⟩ ∧ a.leadsTo b = true ∧ m' = ⟨b, n⟩ := by
  simp only [follow, Option.ite_none_right_eq_some, Option.some.injEq] at h
  exact ⟨h.1.1, h.1.2, h.2.symm⟩

theorem follow_eq_some {m m' : Machine} {e : Event} (hb : e.isBegin = false)
    (ht : e.isTransition = false) (h : m.follow e = some m') : m' = m ∧ e.isSlip = false := by
  unfold follow at h
  split at h
  · cases hb
  · cases ht
  · split at h
    · cases h
    · next hs => cases h; exact ⟨rfl, Bool.eq_false_iff.2 hs⟩

theorem isSlip_of_replay {m m' : Machine} {r : List Event} (h : m.replay r = some m') :
    ∀ e ∈ r, e.isSlip = false := by
  induction r generalizing m' with
  | nil => simp
  | cons e r ih =>
    obtain ⟨m₁, h₁, h₂⟩ := Option.bind_eq_some_iff.1 h
    intro x hx
    rcases List.mem_cons.1 hx with rfl | hx
    · rcases x.cases_act with ⟨n, rfl⟩ | ⟨a, b, n, rfl⟩ | ⟨hb, ht⟩
      · rfl
      · rfl
      · exact (follow_eq_some hb ht h₂).2
    · exact ih h₁ x hx

theorem cycle_of_replay {m m' : Machine} {r : List Event} (h : m.replay r = some m') :
    m'.cycle = m.cycle + begun r := by
  induction r generalizing m' with
  | nil => cases h; rfl
  | cons e r ih =>
    obtain ⟨m₁, h₁, h₂⟩ := Option.bind_eq_some_iff.1 h
    have hm₁ := ih h₁
    rcases e.cases_act with ⟨n, rfl⟩ | ⟨a, b, n, rfl⟩ | ⟨hb, ht⟩
    · obtain ⟨hn, rfl⟩ := follow_begin_eq_some h₂
      rw [begun_cons_begin]
      change n = _
      omega
    · obtain ⟨rfl, -, rfl⟩ := follow_transition_eq_some h₂
      rw [begun_cons_quiet rfl]
      exact hm₁
    · obtain ⟨rfl, -⟩ := follow_eq_some hb ht h₂
      rw [begun_cons_quiet hb]
      exact hm₁

end Machine

end DesktopHost
