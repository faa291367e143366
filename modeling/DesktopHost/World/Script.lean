import DesktopHost.Backend.Output
import DesktopHost.Event

/-!
Scripts for everything a session meets: its children, its health checks, its window surface.
A script that has run out repeats its last entry.
-/

set_option autoImplicit false

namespace DesktopHost

/-- What a child does about a signal: exit after a while, and let the sending fail. -/
structure Reaction where
  failure : Option Failure
  exitAfter : Option Nat
  code : Option Int32
  deriving DecidableEq, Repr

def Reaction.none : Reaction := ⟨.none, .none, .none⟩

/-- The life of a child; its times count from the spawn. -/
structure ChildScript where
  pid : Option Nat
  spawnFailure : Option Failure
  exit : Option (Nat × Option Int32)
  /-- From then on nobody learns of an exit any more. -/
  unwatchAt : Option Nat
  /-- Without chunks there is no pipe. -/
  stdout : Option (List Chunk)
  stderr : Option (List Chunk)
  onTerminate : Reaction
  onKill : Reaction
  deriving DecidableEq, Repr

namespace ChildScript

/-- A child without a number that never exits. -/
def inert : ChildScript := ⟨none, none, none, none, none, none, .none, .none⟩

def reaction (c : ChildScript) : TerminationSignal → Reaction
  | .graceful => c.onTerminate
  | .forceful => c.onKill

end ChildScript

/-- The answer to a health check, a number of milliseconds after it was asked. -/
inductive HealthAnswer where
  | silent
  | after (delay : Nat) (result : Except HealthFailure Unit)

inductive SurfaceAnswer where
  | ok
  | fails (e : WindowError)
  deriving DecidableEq, Repr

/-- The entry to use now, and the script from the next use on. -/
def nextOf {α : Type} (fallback : α) : List α → α × List α
  | [] => (fallback, [])
  | [a] => (a, [a])
  | a :: b :: r => (a, b :: r)

/-- Something that is due at an instant without the program's doing. -/
inductive Occurrence where
  | command (c : Command)
  | dropHandle
  /-- An exit brought about from outside, which is recorded. -/
  | exit (child : Nat) (code : Option Int32)
  /-- An exit of the child's own. -/
  | ownExit (child : Nat) (code : Option Int32)
  | unwatch (child : Nat)
  | line (child : Nat) (stream : StreamKind) (text : String)
  | nothing
  deriving DecidableEq, Repr

structure Due where
  time : Nat
  what : Occurrence
  deriving DecidableEq, Repr

namespace Due

def isCommand (d : Due) : Bool :=
  match d.what with
  | .command _ => true
  | _ => false

/-- Adds an entry to an agenda, after all that are due no later. -/
def insert (d : Due) : List Due → List Due
  | [] => [d]
  | e :: r => if d.time < e.time then d :: e :: r else e :: insert d r

def insertAll (ds agenda : List Due) : List Due := ds.foldl (fun a d => insert d a) agenda

theorem countP_insert (p : Due → Bool) (d : Due) (agenda : List Due) :
    (insert d agenda).countP p = agenda.countP p + (if p d then 1 else 0) := by
  induction agenda with
  | nil => simp [insert, List.countP_cons]
  | cons e r ih =>
    unfold insert
    split
    · simp [List.countP_cons]
    · simp only [List.countP_cons, ih]; omega

theorem countP_insertAll (p : Due → Bool) (ds agenda : List Due) (h : ∀ d ∈ ds, p d = false) :
    (insertAll ds agenda).countP p = agenda.countP p := by
  induction ds generalizing agenda with
  | nil => rfl
  | cons d r ih =>
    have hd := h d List.mem_cons_self
    simp only [insertAll, List.foldl_cons] at ih ⊢
    rw [ih _ fun x hx => h x (List.mem_cons_of_mem _ hx), countP_insert]
    simp [hd]

end Due
end DesktopHost
