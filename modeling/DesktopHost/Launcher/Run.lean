import DesktopHost.CommandLine.Help
import DesktopHost.Launcher.LogDirectory
import DesktopHost.Launcher.Setup
import DesktopHost.World.Record

/-!
A whole invocation of the launcher: what it prints on either stream, and the code it exits with.
-/

set_option autoImplicit false

namespace DesktopHost

structure Invocation where
  exitCode : Nat
  stdout : String
  stderr : String
  deriving DecidableEq, Repr

namespace Launcher

/-- The exit code for faulty arguments. -/
def usageExitCode : Nat := 2

def usageText (e : ArgumentError) : String :=
  "error: " ++ e.name ++ "\n\nUsage: " ++ Help.programName ++
    " [OPTIONS]\n\nFor more information, try '--help'.\n"

def stopped (env : Environment) : Stop → Invocation
  | .fault e => ⟨usageExitCode, "", usageText e⟩
  | .asked q => ⟨0, Help.answer env q, ""⟩

/-- A dialog on a terminal: its title underlined, and its message. -/
def dialogText (d : Dialog) : String :=
  "\n" ++ d.title ++ "\n" ++ String.ofList (List.replicate (Utf8.encode d.title).length '=') ++
    "\n" ++ d.message ++ "\n\n"

def addressText (url : String) : String := "Bracket is running at " ++ url ++ "\n"

def dialogs (w : World) : List Dialog :=
  w.events.filterMap fun e =>
    match e.2 with
    | .dialog d => some d
    | _ => none

def addresses (w : World) : List String :=
  w.events.filterMap fun e =>
    match e.2 with
    | .openWindow url => some url
    | _ => none

/-- Why no browser window can be shown. -/
def noBrowser : WindowError := .create (Failure.noSuchFile.text)

/-- Without a window of its own, a headless session only tells its address. -/
def surface (o : Options) : List SurfaceAnswer := if o.headless then [] else [.fails noBrowser]

/-- Runs a session; where it goes on until it is told to end, it may be told so. -/
def drive (s : Session) (terminate : Bool) : Session :=
  let s := s.play
  if s.finishedAt?.isNone && terminate then (s.inWorld (s.world.sendCommand .quit)).run else s

def exitCode (r : Report) : Nat :=
  if r.finalState = .failed then (LauncherError.ofFailedSession r.errorsReported).exitCode else 0

/-- What a session that was run shows on a terminal. -/
def shown (o : Options) (s : Session) : Invocation where
  exitCode := exitCode s.report
  stdout := if o.headless then String.join ((addresses s.world).map addressText) else ""
  stderr := String.join ((dialogs s.world).map dialogText)

def errorText (e : LauncherError) : String := "Error: " ++ e.message ++ "\n"

/-- Makes the log directory; gives the complaint if it cannot be made. -/
def makeLogDirectory (home : Installation) (env : Environment) (w : World) : World × String :=
  let dir := LogDirectory.locate home.accountHome env
  let (files, failure) := w.files.makeDirs w.cwd dir
  ({ w with files := files }, (failure.map (LogDirectory.failureText dir)).getD "")

/-- The session of an invocation, with the child that its launch leads to among the files. -/
def session (home : Installation) (env : Environment) (o : Options) (w : World)
    (child : FileTree → Launch → ChildScript) : Except LauncherError Session := do
  let s ← prepare home env o { w with surface := surface o }
  return s.inWorld { s.world with childScripts := [child w.files s.launch] }

def run (home : Installation) (env : Environment) (arguments : List String) (w : World)
    (child : FileTree → Launch → ChildScript) (terminate : Bool) : Invocation :=
  match Options.read env arguments with
  | .error stop => stopped env stop
  | .ok o =>
    let (w, complaint) := makeLogDirectory home env w
    match session home env o w child with
    | .error e => ⟨e.exitCode, "", complaint ++ errorText e⟩
    | .ok s =>
      let i := shown o (drive s terminate)
      { i with stderr := complaint ++ i.stderr }

end Launcher
end DesktopHost
