import DesktopHost.Backend.Launch
import DesktopHost.Url.Parse

/-!
The configuration of a session, its defaults, the addresses it leads to, and when it is sound.
Durations count whole milliseconds.
-/

set_option autoImplicit false

namespace DesktopHost

inductive ConfigError where
  | invalidPort (port : Nat)
  | invalidUrl (value reason : String)
  | zeroDuration (name : String)
  | zeroAttempts
  deriving DecidableEq, Repr

namespace ConfigError

def message : ConfigError → String
  | .invalidPort p =>
    "Port should be >= 1024 (privileged ports require root), got " ++ toString p
  | .invalidUrl value reason => "Invalid URL " ++ Quoted.quote value ++ ": " ++ reason
  | .zeroDuration name => name ++ " must be greater than zero"
  | .zeroAttempts => "Health check must allow at least one attempt"

def name : ConfigError → String
  | .invalidPort _ => "InvalidPort"
  | .invalidUrl _ _ => "InvalidUrl"
  | .zeroDuration _ => "ZeroDuration"
  | .zeroAttempts => "ZeroAttempts"

def zeroStartupTimeout : ConfigError := .zeroDuration "startup timeout"

def zeroRequestTimeout : ConfigError := .zeroDuration "health request timeout"

end ConfigError

/-- The system a program is built for. -/
inductive Platform where
  | linux
  | macOS
  | windows
  | other
  deriving DecidableEq, Repr

/-- On macOS an application outlives its windows. -/
def Platform.quitsWithWindow : Platform → Bool
  | .macOS => false
  | .linux | .windows | .other => true

structure ReadinessConfig where
  healthPath : String
  markers : List String
  maxAttempts : Nat
  interval : Nat
  requestTimeout : Nat
  startupTimeout : Nat
  deriving DecidableEq, Repr

structure Config where
  mode : RunMode
  port : UInt16
  backendPath : Option Path
  devFrontendUrl : String
  readiness : ReadinessConfig
  shutdownGrace : Nat
  quitOnLastWindowClosed : Bool
  deriving DecidableEq, Repr

namespace ReadinessConfig

def default : ReadinessConfig where
  healthPath := "/docs"
  markers := ["Uvicorn running", "Application startup complete"]
  maxAttempts := 15
  interval := 1000
  requestTimeout := 2000
  startupTimeout := 10000

end ReadinessConfig

namespace Config

def defaultPort : UInt16 := 8400

def defaultFrontendUrl : String := "http://localhost:3000"

def defaultShutdownGrace : Nat := 3000

/-- Ports below are kept for the system. -/
def firstFreePort : UInt16 := 1024

def standaloneVariable : String := "BRACKET_STANDALONE"

def portVariable : String := "PORT"

/-- The defaults of a run mode. Whether the session ends with its last window depends on the system,
which is Linux where none is named. -/
def forMode (mode : RunMode) (platform : Platform := .linux) : Config where
  mode := mode
  port := defaultPort
  backendPath := none
  devFrontendUrl := defaultFrontendUrl
  readiness := .default
  shutdownGrace := defaultShutdownGrace
  quitOnLastWindowClosed := platform.quitsWithWindow

def isDevelopment (c : Config) : Bool := c.mode == .development

def localhost : List Char := ['l', 'o', 'c', 'a', 'l', 'h', 'o', 's', 't']

/-- The backend's own address. -/
def backendUrl (c : Config) : Url where
  scheme := ['h', 't', 't', 'p']
  user := []
  password := []
  host := some (.domain localhost)
  port := if c.port = 80 then none else some c.port.toNat
  path := .parts [[]]
  query := none
  fragment := none

def asConfigUrl (value : String) (r : Except UrlError Url) : Except ConfigError Url :=
  match r with
  | .ok u => .ok u
  | .error e => .error (.invalidUrl value e.message)

/-- What the window shows: the frontend's server in development, else the backend. -/
def targetUrl (c : Config) : Except ConfigError Url :=
  match c.mode with
  | .development => asConfigUrl c.devFrontendUrl (Url.read c.devFrontendUrl)
  | .production => .ok c.backendUrl

/-- Where the backend is asked for its health, from the backend's address on. -/
def healthUrl (c : Config) : Except ConfigError Url :=
  asConfigUrl c.readiness.healthPath (c.backendUrl.join c.readiness.healthPath)

/-- The variables a backend is started with. -/
def backendEnv (c : Config) : List (String × String) :=
  [(standaloneVariable, "true"), (portVariable, toString c.port.toNat)]

/-- The first fault of a configuration, in a fixed order. -/
def validate (c : Config) : Except ConfigError Unit := do
  if c.port < firstFreePort then throw (.invalidPort c.port.toNat)
  if c.readiness.maxAttempts = 0 then throw .zeroAttempts
  if c.readiness.startupTimeout = 0 then throw ConfigError.zeroStartupTimeout
  if c.readiness.requestTimeout = 0 then throw ConfigError.zeroRequestTimeout
  let _ ← c.targetUrl
  let _ ← c.healthUrl
  return ()

end Config
end DesktopHost
