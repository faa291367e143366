import DesktopHost.Config
import DesktopHost.Text.Numeral

/-!
The shell's own configuration, from its arguments and the environment. A variable that does not fit
is passed over; nothing is validated here.
-/

set_option autoImplicit false

namespace DesktopHost.Shell

def devFlag : String := "--dev"

def portVariable : String := "BRACKET_PORT"

def backendPathVariable : String := "BRACKET_BACKEND_PATH"

def devUrlVariable : String := "BRACKET_DEV_URL"

/-- The port of the environment, if it is one. -/
def port? (env : Environment) : Option UInt16 := do
  let text ← env.text? portVariable
  let n ← Numeral.unsigned? 65535 text.toList
  return UInt16.ofNat n

/-- The defaults of the mode and the system with the variables laid over them. -/
def overlay (dev : Bool) (env : Environment) (platform : Platform := .linux) : Config :=
  let c := Config.forMode (.ofDevFlag dev) platform
  { c with
    port := (port? env).getD c.port
    backendPath := env.get? backendPathVariable
    devFrontendUrl := (env.text? devUrlVariable).getD c.devFrontendUrl }

/-- The flag counts wherever it stands among the arguments. -/
def config (arguments : List String) (env : Environment) (platform : Platform := .linux) : Config :=
  overlay (arguments.contains devFlag) env platform

/-- Whether the flag is among the arguments that the system hands over. They are read one by one up
to the flag, and one that is no text stops the program. -/
def devFlag? : List Bytes → Option Bool
  | [] => some false
  | argument :: rest => do
    let text ← Utf8.decode? argument
    if text = devFlag then return true
    devFlag? rest

/-- The configuration of a shell that is started, with its own name in front of the arguments. -/
def config? (arguments : List Bytes) (env : Environment) (platform : Platform := .linux) :
    Option Config :=
  (devFlag? arguments).map fun dev => overlay dev env platform

/-- The backend's executable; a packaged shell finds it among the toolkit's resources. -/
def executable (home : Installation) (env : Environment) (resources : Option Path) (c : Config) :
    Except LocateError Path :=
  match resources with
  | some dir =>
    if c.backendPath.isNone && !c.isDevelopment then .ok (Backend.bundledUnder dir)
    else Backend.locate home env c.mode c.backendPath
  | none => Backend.locate home env c.mode c.backendPath

end DesktopHost.Shell
