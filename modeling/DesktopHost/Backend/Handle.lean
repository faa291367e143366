import DesktopHost.Config
import DesktopHost.World.Lemmas

/-!
The handle of a spawned backend: its exit as the program may read it, the flag that its exit was
asked for, the signals sent to it, and waiting for its exit up to a deadline.
-/

set_option autoImplicit false

namespace DesktopHost

structure Handle where
  child : Nat
  pid : Option Nat
  /-- Pipes that no reader has taken yet. -/
  stdout : Bool
  stderr : Bool
  terminationRequested : Bool
  deriving DecidableEq, Repr

namespace Handle

def ofChild (w : World) (i : Nat) : Handle :=
  match w.child? i with
  | some c => ⟨i, c.pid, c.script.stdout.isSome, c.script.stderr.isSome, false⟩
  | none => ⟨i, none, false, false, false⟩

def exitReport (h : Handle) (w : World) : Option ExitReport := w.publishedExit h.child

def hasExited (h : Handle) (w : World) : Bool := (h.exitReport w).isSome

def requestTermination (h : Handle) : Handle := { h with terminationRequested := true }

/-- Takes the pipe for a reader; tells whether it was still there. -/
def takeStdout (h : Handle) : Handle × Bool := ({ h with stdout := false }, h.stdout)

def takeStderr (h : Handle) : Handle × Bool := ({ h with stderr := false }, h.stderr)

/-- A process whose exit is known is left alone. -/
def signal (h : Handle) (w : World) (s : TerminationSignal) : World × Except Failure Unit :=
  match h.exitReport w with
  | some r => (w.note (.signalSkipped h.pid s r), .ok ())
  | none => w.signal h.child s

def boolText (b : Bool) : String := if b then "true" else "false"

def debug (h : Handle) (w : World) : String :=
  "ProcessHandle \x7b pid: " ++ pidText h.pid ++ ", exit: " ++
    ExitReport.debugOption (h.exitReport w) ++ ", termination_requested: " ++
    boolText h.terminationRequested ++ ", .. \x7d"

/-- The diagnostic text of a child that has no handle's owner yet. -/
def spawnedDebug (h : Handle) (w : World) : String :=
  "SpawnedProcess \x7b pid: " ++ pidText h.pid ++ ", stdout: " ++ boolText h.stdout ++
    ", stderr: " ++ boolText h.stderr ++ ", exit: " ++
    ExitReport.debugOption (h.exitReport w) ++ ", .. \x7d"

end Handle

/-- Waits until the exit of a child is seen, at most up to `deadline`. -/
def World.awaitExit (w : World) (i deadline : Nat) : World × Option ExitReport :=
  match w.visibleExit i with
  | some r => (w, some r)
  | none =>
    match _h : w.agenda with
    | [] => (w.advanceTo deadline, none)
    | d :: _ =>
      if d.time ≤ deadline then (w.advanceTo d.time).awaitExit i deadline
      else (w.advanceTo deadline, none)
termination_by w.agenda.length
decreasing_by exact w.advanceTo_agenda_length_lt d.time d _ _h (Nat.le_refl _)

theorem World.awaitExit_commandsLeft_le (w : World) (i deadline : Nat) :
    (w.awaitExit i deadline).1.commandsLeft ≤ w.commandsLeft := by
  fun_induction World.awaitExit w i deadline with
  | case1 => exact Nat.le_refl _
  | case2 w => exact w.advanceTo_commandsLeft_le _
  | case3 w _ d rest _ _ ih => exact Nat.le_trans ih (w.advanceTo_commandsLeft_le _)
  | case4 w => exact w.advanceTo_commandsLeft_le _

theorem Handle.signal_commandsLeft (h : Handle) (w : World) (s : TerminationSignal) :
    (h.signal w s).1.commandsLeft = w.commandsLeft := by
  unfold Handle.signal
  split
  · rfl
  · exact w.signal_commandsLeft _ _

/-- Spawns the backend of `l`, which must exist, and attaches readers to its output. -/
def World.spawnBackend (w : World) (l : Launch) (markers : List String) :
    World × Except Problem Handle :=
  if w.files.has w.cwd l.program then
    match w.spawn l with
    | (w, .error f) => (w.note (.spawnFailed l.program f), .error (.spawnFailed l.program f))
    | (w, .ok i) =>
      let h := Handle.ofChild w i
      (w.attachReaders i markers, .ok { h with stdout := false, stderr := false })
  else (w.note (.executableMissing l.program), .error (.executableNotFound l.program))

theorem World.spawnBackend_commandsLeft (w : World) (l : Launch) (markers : List String) :
    (w.spawnBackend l markers).1.commandsLeft = w.commandsLeft := by
  unfold World.spawnBackend
  split
  · have h := w.spawn_commandsLeft l
    split
    · next w' f hs => rw [hs] at h; exact h
    · next w' i hs =>
      rw [hs] at h
      dsimp only
      rw [World.attachReaders_commandsLeft]; exact h
  · rfl

end DesktopHost
