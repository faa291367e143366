import DesktopHost.World.Script

/-!
A backend described by what it does: it prints some lines, some variables, its directory and a
marker, raises a signal against itself, and then exits or sleeps. The description gives a script.
-/

set_option autoImplicit false

namespace DesktopHost

/-- What a backend does when it is asked to end. -/
inductive EndReaction where
  | dies
  | exits (code : Int)
  | ignores
  deriving DecidableEq, Repr

/-- What a signal does to a process that says nothing about it. -/
inductive RaisedSignal where
  /-- It asks the process to end, about which a backend may say something. -/
  | ending
  | fatal
  | stopping
  | harmless
  deriving DecidableEq, Repr

namespace RaisedSignal

/-- Signals that kill, by name. -/
def fatalNames : List String :=
  ["HUP", "INT", "QUIT", "ILL", "TRAP", "ABRT", "BUS", "FPE", "KILL", "USR1", "SEGV", "USR2",
    "PIPE", "ALRM", "STKFLT", "XCPU", "XFSZ", "VTALRM", "PROF", "IO", "PWR", "SYS", "RTMIN", "RTMAX"]

/-- Case does not matter; a signal that does not exist cannot be raised and does no harm. -/
def ofName (name : String) : RaisedSignal :=
  let name := name.map Char.toUpper
  if name == "TERM" then .ending
  else if name == "STOP" then .stopping
  else if fatalNames.contains name then .fatal
  else .harmless

end RaisedSignal

structure DescribedBackend where
  isRunnable : Bool
  onEnd : EndReaction
  stdout : List String
  printEnv : List String
  printDir : Bool
  marker : Option String
  /-- Raised once everything is printed. -/
  raises : Option RaisedSignal
  /-- The code it exits with after that; without one it sleeps. -/
  exits : Option Int
  deriving DecidableEq, Repr

/-- What becomes of a backend once everything is printed. -/
inductive BackendEnding where
  | sleeps
  /-- It no longer acts on requests. -/
  | halts
  | exits (code : Option Int32)
  deriving DecidableEq, Repr

namespace DescribedBackend

/-- Prints nothing and exits. -/
def exiting (code : Int) : DescribedBackend :=
  ⟨true, .dies, [], [], false, none, none, some code⟩

/-- No larger number is a code to exit with. -/
def maxCode : Int := 2147483647

/-- The exit code for a number that is no code. -/
def badCode : Int32 := 2

/-- An exit code keeps its low eight bits. -/
def exitCode (code : Int) : Option Int32 :=
  some (if 0 ≤ code && code ≤ maxCode then Int32.ofInt (code % 256) else badCode)

/-- Everything it prints when started by `l`. -/
def lines (b : DescribedBackend) (l : Launch) : List String :=
  b.stdout ++ b.printEnv.map (fun name => name ++ "=" ++ ((l.env.lookup name).getD "")) ++
    (if b.printDir then [l.workingDir.display] else []) ++ b.marker.toList

/-- The end of a backend that no signal keeps from it. -/
def quietEnding (b : DescribedBackend) : BackendEnding :=
  match b.exits with
  | some code => .exits (exitCode code)
  | none => .sleeps

/-- A backend that survives its own signal goes on. -/
def ending (b : DescribedBackend) : BackendEnding :=
  match b.raises with
  | none => b.quietEnding
  | some .harmless => b.quietEnding
  | some .fatal => .exits none
  | some .stopping => .halts
  | some .ending =>
    match b.onEnd with
    | .dies => .exits none
    | .exits code => .exits (exitCode code)
    | .ignores => b.quietEnding

/-- The exit it comes to of its own accord. -/
def exit? (b : DescribedBackend) : Option (Option Int32) :=
  match b.ending with
  | .exits code => some code
  | _ => none

def output (b : DescribedBackend) (l : Launch) : Bytes :=
  (b.lines l).flatMap fun line => Utf8.encode line ++ [Output.lineFeed]

def endReaction (b : DescribedBackend) : Reaction :=
  if b.ending = .halts then .none
  else
    match b.onEnd with
    | .dies => ⟨none, some 1, none⟩
    | .exits code => ⟨none, some 1, exitCode code⟩
    | .ignores => .none

/-- The life of the backend: a moment to print, a moment to exit. -/
def script (b : DescribedBackend) (l : Launch) : ChildScript where
  pid := some 1
  spawnFailure := none
  exit := b.exit?.map fun code => (2, code)
  unwatchAt := none
  stdout := some [⟨1, b.output l, b.exit?.isSome, none⟩]
  stderr := some []
  onTerminate := b.endReaction
  onKill := ⟨none, some 1, none⟩

/-- The life of what a launch starts among `programs`, which are known by the names of their files.
A launch whose file cannot be run fails. -/
def launched (programs : List (List Bytes × DescribedBackend)) (files : FileTree)
    (cwd : List Bytes) (search : List Path) (l : Launch) : ChildScript :=
  match l.executedFile files cwd search with
  | .ok names => ((programs.lookup names).map fun b => b.script l).getD .inert
  | .error f => { ChildScript.inert with spawnFailure := some f }

end DescribedBackend
end DesktopHost
