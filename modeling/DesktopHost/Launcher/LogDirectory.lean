import DesktopHost.Backend.Launch

/-!
The directory of the log files: below the user's data directory.
-/

set_option autoImplicit false

namespace DesktopHost.LogDirectory

def dataHomeVariable : String := "XDG_DATA_HOME"

def homeVariable : String := "HOME"

/-- A relative data directory does not count. -/
def dataHome? (env : Environment) : Option Path :=
  (env.get? dataHomeVariable).filter Path.isAbsolute

/-- The user's home directory: that of the environment, else that of the account. -/
def home? (account : Option Path) (env : Environment) : Option Path :=
  ((env.get? homeVariable).filter (!·.isEmpty)).or account

def homeData? (account : Option Path) (env : Environment) : Option Path :=
  (home? account env).map fun home => Path.join home (Path.ofString ".local/share")

def below (dir : Path) : Path :=
  Path.join (Path.join dir (Path.ofString "bracket-desktop")) (Path.ofString "logs")

/-- Without a data directory the logs go below the current one. -/
def locate (account : Option Path) (env : Environment) : Path :=
  match (dataHome? env).or (homeData? account env) with
  | some dir => below dir
  | none => Path.ofString "logs"

/-- The line that is printed when the directory cannot be made. -/
def failureText (dir : Path) (f : Failure) : String :=
  "Failed to create log directory " ++ dir.display ++ ": " ++ f.text ++ "\n"

end DesktopHost.LogDirectory
