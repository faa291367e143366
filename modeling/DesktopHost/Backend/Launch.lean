import DesktopHost.Platform.FileTree
import DesktopHost.Text.Quoted

/-!
Where the backend executable is found and how it is started. `checkedFile` and `executedFile`
say which file the existence check looks at and which file the system then runs.
-/

set_option autoImplicit false

namespace DesktopHost

structure Launch where
  program : Path
  /-- Laid over the inherited environment. -/
  env : List (String × String)
  workingDir : Path
  deriving DecidableEq, Repr

namespace Launch

/-- The directory of the executable, or the current one for a bare name. -/
def workingDirOf (program : Path) : Path :=
  match program.parent? with
  | some (b :: r) => b :: r
  | _ => [Path.dot]

def forExecutable (program : Path) (env : List (String × String)) : Launch :=
  ⟨program, env, workingDirOf program⟩

def quotedPath (p : Path) : String := Quoted.quote p.display

def quotedEnv (env : List (String × String)) : String :=
  "[" ++ ", ".intercalate (env.map fun e => "(" ++ Quoted.quote e.1 ++ ", " ++ Quoted.quote e.2 ++ ")")
    ++ "]"

def debug (l : Launch) : String :=
  "LaunchSpec \x7b program: " ++ quotedPath l.program ++ ", env: " ++ quotedEnv l.env ++
    ", working_dir: " ++ quotedPath l.workingDir ++ " \x7d"

/-- The file that the existence check finds, seen from the launcher's directory. -/
def checkedFile (t : FileTree) (cwd : List Bytes) (l : Launch) : Except Failure (List Bytes) :=
  (t.locate cwd l.program).map (·.1)

/-- A name without a slash is tried in each search directory in turn. If none has a file that can
be run, it counts whether one had a file that cannot: `denied` tells so of those before. -/
def searchFile (t : FileTree) (cwd : List Bytes) (name : Path) (denied : Bool) :
    List Path → Except Failure (List Bytes)
  | [] => .error (if denied then .permissionDenied else .noSuchFile)
  | dir :: rest =>
    match t.runnable cwd (Path.join dir name) with
    | .ok names => .ok names
    | .error f => searchFile t cwd name (denied || f = .permissionDenied) rest

/-- The file that is run: the child enters its working directory before the program is looked up. -/
def executedFile (t : FileTree) (cwd : List Bytes) (search : List Path) (l : Launch) :
    Except Failure (List Bytes) := do
  let dir ← t.directory cwd l.workingDir
  if l.program.contains Path.slash then t.runnable dir l.program
  else searchFile t dir l.program false search

end Launch

/-- What the program knows about its own place on disk and its user's. -/
structure Installation where
  checkout : Path
  executable : Except String Path
  /-- The home directory of the user's account. -/
  accountHome : Option Path

inductive LocateError where
  | unknownExecutable (reason : String)
  | noParent (executable : Path)
  deriving DecidableEq, Repr

def LocateError.message : LocateError → String
  | .unknownExecutable reason => "Cannot determine current executable: " ++ reason
  | .noParent p => "Executable " ++ p.display ++ " has no parent directory"

inductive RunMode where
  | development | production
  deriving DecidableEq, Repr

namespace RunMode

def name : RunMode → String
  | .development => "development"
  | .production => "production"

def debug : RunMode → String
  | .development => "Development"
  | .production => "Production"

def ofDevFlag (dev : Bool) : RunMode := if dev then .development else .production

end RunMode

/-- Process environment: each variable at most once. -/
abbrev Environment := List (String × Bytes)

namespace Environment

def get? (env : Environment) (name : String) : Option Bytes := env.lookup name

/-- A variable that is not well-formed text counts as unset. -/
def text? (env : Environment) (name : String) : Option String := (env.get? name).bind Utf8.decode?

end Environment

namespace Backend

/-- The name where executables carry no suffix, which is everywhere but on Windows. -/
def fileName : String := "bracket-backend"

def resourceDirVariable : String := "BRACKET_RESOURCE_DIR"

/-- Bundled resources: the directory of the environment, else the one beside the executable. -/
def resourceRoot (home : Installation) (env : Environment) : Except LocateError Path :=
  match env.text? resourceDirVariable with
  | some dir => .ok (Path.ofString dir)
  | none =>
    match home.executable with
    | .error reason => .error (.unknownExecutable reason)
    | .ok exe =>
      match exe.parent? with
      | none => .error (.noParent exe)
      | some dir => .ok (Path.join dir (Path.ofString "resources"))

def bundledUnder (root : Path) : Path :=
  Path.join (Path.join root (Path.ofString "app")) (Path.ofString fileName)

/-- The executable of a run mode; an explicit path always wins. -/
def locate (home : Installation) (env : Environment) (mode : RunMode) (override : Option Path) :
    Except LocateError Path :=
  match override with
  | some p => .ok p
  | none =>
    match mode with
    | .development =>
      .ok (Path.join (Path.join home.checkout (Path.ofString "dist")) (Path.ofString fileName))
    | .production => (resourceRoot home env).map bundledUnder

end Backend
end DesktopHost
