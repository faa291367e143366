/-!
The lifecycle of a session. States only move forward; a startup cycle begins from rest, from a
running session or from an ended one, and is counted.
-/

set_option autoImplicit false

namespace DesktopHost

inductive LifecycleState where
  | idle | starting | probing | ready | running | shuttingDown | terminated | failed
  deriving DecidableEq, Repr, Inhabited

namespace LifecycleState

/-- Every state, in the order in which a session can pass through them. -/
def all : List LifecycleState :=
  [.idle, .starting, .probing, .ready, .running, .shuttingDown, .terminated, .failed]

def rank : LifecycleState → Nat
  | .idle => 0
  | .starting => 1
  | .probing => 2
  | .ready => 3
  | .running => 4
  | .shuttingDown => 5
  | .terminated => 6
  | .failed => 7

def isTerminal : LifecycleState → Bool
  | .terminated | .failed => true
  | _ => false

/-- A step within a cycle: forward from any state that is not an end. -/
def mayGo (source target : LifecycleState) : Bool :=
  !source.isTerminal && source.rank < target.rank

/-- A new cycle begins only where none is under way. -/
def mayBegin : LifecycleState → Bool
  | .starting | .probing | .shuttingDown => false
  | _ => true

/-- The name in records and on the wire. -/
def name : LifecycleState → String
  | .idle => "idle"
  | .starting => "starting"
  | .probing => "probing"
  | .ready => "ready"
  | .running => "running"
  | .shuttingDown => "shuttingDown"
  | .terminated => "terminated"
  | .failed => "failed"

/-- The name in log fields. -/
def display : LifecycleState → String
  | .shuttingDown => "shutting-down"
  | s => s.name

/-- The name in diagnostics. -/
def debug : LifecycleState → String
  | .idle => "Idle"
  | .starting => "Starting"
  | .probing => "Probing"
  | .ready => "Ready"
  | .running => "Running"
  | .shuttingDown => "ShuttingDown"
  | .terminated => "Terminated"
  | .failed => "Failed"

def successors (s : LifecycleState) : List LifecycleState := all.filter s.mayGo

theorem rank_lt_of_mayGo {s t : LifecycleState} (h : s.mayGo t = true) : s.rank < t.rank := by
  simp [mayGo] at h; exact h.2

end LifecycleState

/-- A step that the machine refused. -/
structure Refusal where
  source : LifecycleState
  target : LifecycleState
  deriving DecidableEq, Repr

def Refusal.message (r : Refusal) : String :=
  "illegal lifecycle transition " ++ r.source.display ++ " -> " ++ r.target.display

structure Machine where
  state : LifecycleState
  cycle : Nat
  deriving DecidableEq, Repr

namespace Machine

def new : Machine := ⟨.idle, 0⟩

def advance (m : Machine) (next : LifecycleState) : Except Refusal Machine :=
  if m.state.mayGo next then .ok { m with state := next } else .error ⟨m.state, next⟩

def beginCycle (m : Machine) : Except Refusal Machine :=
  if m.state.mayBegin then .ok ⟨.starting, m.cycle + 1⟩ else .error ⟨m.state, .starting⟩

/-- Moves to `failed` unless the cycle is over; tells whether it did. -/
def fail (m : Machine) : Machine × Bool :=
  match m.advance .failed with
  | .ok m' => (m', true)
  | .error _ => (m, false)

end Machine
end DesktopHost
