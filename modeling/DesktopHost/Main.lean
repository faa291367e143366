import DesktopHost.Launcher.EnvironmentFile
import DesktopHost.Launcher.Run

/-!
The launcher as a program: it reads its arguments, the environment and the file of variables in the
current directory, and prints what the invocation shows. It has no means of starting a process, so
a launch whose executable exists fails with the system's word for that.
-/

set_option autoImplicit false

namespace DesktopHost.Launcher

def variableNames : List String :=
  Setting.all.filterMap (·.envName?) ++
    [Backend.resourceDirVariable, LogDirectory.dataHomeVariable, LogDirectory.homeVariable]

/-- The variables of the process that matter to an invocation. -/
def readEnvironment : IO Environment :=
  variableNames.filterMapM fun name => do
    return (← IO.getEnv name).map fun value => (name, Utf8.encode value)

def environmentFile : String := ".env"

def readTextFile? (name : String) : IO (Option String) := do
  try return some (← IO.FS.readFile name) catch _ => return none

def canOpen (name : String) : IO Bool := do
  try
    let _ ← IO.FS.Handle.mk name .read
    return true
  catch _ => return false

def readInstallation : IO Installation := do
  let checkout ← IO.currentDir
  try
    let executable ← IO.appPath
    return ⟨Path.ofString checkout.toString, .ok (Path.ofString executable.toString), none⟩
  catch e => return ⟨Path.ofString checkout.toString, .error (toString e), none⟩

/-- A file and the directories that lead to it. -/
def treeOf (p : Path) : FileTree :=
  let names := FileTree.names p
  ⟨(List.range names.length).map (fun n => (names.take n, .dir)) ++ [(names, .file true)]⟩

/-- The executable that the options lead to, if there is a file. -/
def readFiles (home : Installation) (env : Environment) (arguments : List String) :
    IO FileTree := do
  match Options.read env arguments with
  | .error _ => return ⟨[]⟩
  | .ok o =>
    match executable home env o.overlay with
    | .error _ => return ⟨[]⟩
    | .ok p => if ← canOpen p.display then return treeOf p else return ⟨[]⟩

def unstartable (_ : FileTree) (_ : Launch) : ChildScript :=
  { ChildScript.inert with spawnFailure := some .notImplemented }

end DesktopHost.Launcher

open DesktopHost in
def main (arguments : List String) : IO UInt32 := do
  let env ← Launcher.readEnvironment
  let env := match ← Launcher.readTextFile? Launcher.environmentFile with
    | some text => EnvironmentFile.load env text
    | none => env
  let home ← Launcher.readInstallation
  let files ← Launcher.readFiles home env arguments
  let shown := Launcher.run home env arguments { World.empty with files := files }
    Launcher.unstartable false
  IO.print shown.stdout
  IO.eprint shown.stderr
  return shown.exitCode.toUInt32
