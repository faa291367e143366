import DesktopHost.Backend.Launch
import DesktopHost.Text.Numeral

/-!
The options of the command line: three switches, and four settings that take a value. All settings
but the grace period have a variable of the environment that stands in for them.
-/

set_option autoImplicit false

namespace DesktopHost

inductive Switch where
  | dev | headless | verbose
  deriving DecidableEq, Repr

inductive Setting where
  | port | backendPath | devUrl | shutdownGrace
  deriving DecidableEq, Repr

/-- Questions that end the reading of arguments with an answer. -/
inductive Query where
  | help | version
  deriving DecidableEq, Repr

/-- What can be wrong with the arguments. -/
inductive ArgumentError where
  | unknownArgument
  | valueValidation
  | invalidValue
  | argumentConflict
  | tooManyValues
  | invalidUtf8
  deriving DecidableEq, Repr

def ArgumentError.name : ArgumentError → String
  | .unknownArgument => "UnknownArgument"
  | .valueValidation => "ValueValidation"
  | .invalidValue => "InvalidValue"
  | .argumentConflict => "ArgumentConflict"
  | .tooManyValues => "TooManyValues"
  | .invalidUtf8 => "InvalidUtf8"

namespace Setting

def all : List Setting := [.port, .backendPath, .devUrl, .shutdownGrace]

/-- The variable that is looked at where the arguments are silent. -/
def envName? : Setting → Option String
  | .port => some "BRACKET_PORT"
  | .backendPath => some "BRACKET_BACKEND_PATH"
  | .devUrl => some "BRACKET_DEV_URL"
  | .shutdownGrace => none

def name : Setting → String
  | .port => "port"
  | .backendPath => "backend-path"
  | .devUrl => "dev-url"
  | .shutdownGrace => "shutdown-grace-ms"

end Setting

def Switch.name : Switch → String
  | .dev => "dev"
  | .headless => "headless"
  | .verbose => "verbose"

structure Options where
  dev : Bool
  port : Option UInt16
  backendPath : Option Path
  devUrl : Option String
  shutdownGrace : Option UInt64
  headless : Bool
  verbose : Bool
  deriving DecidableEq, Repr

namespace Options

def none : Options := ⟨false, .none, .none, .none, .none, false, false⟩

def isOn (o : Options) : Switch → Bool
  | .dev => o.dev
  | .headless => o.headless
  | .verbose => o.verbose

def turnOn (o : Options) : Switch → Options
  | .dev => { o with dev := true }
  | .headless => { o with headless := true }
  | .verbose => { o with verbose := true }

def has (o : Options) : Setting → Bool
  | .port => o.port.isSome
  | .backendPath => o.backendPath.isSome
  | .devUrl => o.devUrl.isSome
  | .shutdownGrace => o.shutdownGrace.isSome

/-- Values that are text at all. -/
def asText (v : Bytes) : Except ArgumentError String :=
  match Utf8.decode? v with
  | some s => .ok s
  | .none => .error .invalidUtf8

def port? (v : Bytes) : Except ArgumentError UInt16 := do
  let s ← asText v
  match Numeral.signed? s.toList with
  | some n => if 0 ≤ n ∧ n ≤ 65535 then return UInt16.ofNat n.toNat else throw .valueValidation
  | .none => throw .valueValidation

def grace? (v : Bytes) : Except ArgumentError UInt64 := do
  let s ← asText v
  match Numeral.unsigned? 18446744073709551615 s.toList with
  | some n => return UInt64.ofNat n
  | .none => throw .valueValidation

/-- Any path will do but the empty one. -/
def path? (v : Bytes) : Except ArgumentError Path :=
  if v.isEmpty then .error .invalidValue else .ok v

/-- Gives a setting its value. -/
def assign (o : Options) (s : Setting) (v : Bytes) : Except ArgumentError Options :=
  match s with
  | .port => (port? v).map fun p => { o with port := some p }
  | .backendPath => (path? v).map fun p => { o with backendPath := some p }
  | .devUrl => (asText v).map fun u => { o with devUrl := some u }
  | .shutdownGrace => (grace? v).map fun g => { o with shutdownGrace := some g }

/-- A setting may be given once. -/
def assignOnce (o : Options) (s : Setting) (v : Bytes) : Except ArgumentError Options :=
  if o.has s then .error .argumentConflict else o.assign s v

def turnOnOnce (o : Options) (s : Switch) : Except ArgumentError Options :=
  if o.isOn s then .error .argumentConflict else .ok (o.turnOn s)

/-- Takes a setting from the environment, unless an argument gave it. -/
def inherit (env : Environment) (o : Options) (s : Setting) : Except ArgumentError Options :=
  if o.has s then .ok o
  else
    match s.envName?.bind env.get? with
    | some v => o.assign s v
    | .none => .ok o

/-- Takes every missing setting from the environment, in a fixed order. -/
def inheritAll (env : Environment) (o : Options) : Except ArgumentError Options :=
  Setting.all.foldlM (inherit env) o

end Options
end DesktopHost
