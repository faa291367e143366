import DesktopHost.Backend.Exit
import DesktopHost.Backend.Launch
import DesktopHost.Json.Value
import DesktopHost.Lifecycle
import DesktopHost.Readiness.Signal

/-!
The JSON forms of the values that are shared with other programs: states, modes and signals by
their names, exit reports and readiness signals as objects.
-/

set_option autoImplicit false

namespace DesktopHost

def RunMode.all : List RunMode := [.development, .production]

def TerminationSignal.all : List TerminationSignal := [.graceful, .forceful]

namespace Serial

def key (s : String) : JsonText := JsonText.ofString s

def named {α : Type} (name : α → String) (a : α) : JsonValue := .text (key (name a))

def find? {α : Type} (all : List α) (name : α → String) (t : JsonText) : Option α :=
  all.find? fun a => key (name a) == t

/-- A value by its name, or by an object that maps its name to null. -/
def named? {α : Type} (all : List α) (name : α → String) : JsonValue → Option α
  | .text t => find? all name t
  | .object [(t, .null)] => find? all name t
  | _ => none

/-- The values of a member; an object may repeat it. -/
def valuesOf (k : JsonText) (members : List (JsonText × JsonValue)) : List JsonValue :=
  (members.filter (·.1 = k)).map (·.2)

/-- A whole number within bounds. -/
def integer? (lo hi : Int) : JsonValue → Option Int
  | .number n =>
    match n.integer? with
    | some i => if lo ≤ i ∧ i ≤ hi then some i else none
    | none => none
  | _ => none

end Serial

open Serial

def LifecycleState.toJson (s : LifecycleState) : JsonValue := named LifecycleState.name s

def LifecycleState.ofJson? : JsonValue → Option LifecycleState := named? LifecycleState.all LifecycleState.name

def RunMode.toJson (m : RunMode) : JsonValue := named RunMode.name m

def RunMode.ofJson? : JsonValue → Option RunMode := named? RunMode.all RunMode.name

def TerminationSignal.toJson (s : TerminationSignal) : JsonValue :=
  named TerminationSignal.display s

def TerminationSignal.ofJson? : JsonValue → Option TerminationSignal :=
  named? TerminationSignal.all TerminationSignal.display

namespace ExitReport

def codeKey : JsonText := key "code"

def codeJson : Option Int32 → JsonValue
  | none => .null
  | some c => .number (.ofInt c.toInt)

def toJson (r : ExitReport) : JsonValue := .object [(codeKey, codeJson r.code)]

def code? : JsonValue → Option (Option Int32)
  | .null => some none
  | v => (integer? (-2147483648) 2147483647 v).map fun i => some (Int32.ofInt i)

/-- An object with at most one code, other members aside, or the code alone in a list. -/
def ofJson? : JsonValue → Option ExitReport
  | .list [v] => (code? v).map ExitReport.mk
  | .object members =>
    if members.all fun m => JsonText.isWellFormed m.1 then
      match valuesOf codeKey members with
      | [] => some ⟨none⟩
      | [v] => (code? v).map ExitReport.mk
      | _ => none
    else none
  | _ => none

end ExitReport

namespace ReadinessSignal

def signalKey : JsonText := key "signal"

def attemptsKey : JsonText := key "attempts"

def attemptsJson (n : Nat) : JsonValue := .number (.ofInt n)

/-- The name of the kind on the wire. -/
def tag : ReadinessSignal → String
  | .outputMatched => "outputMatched"
  | .healthCheckPassed _ => "healthCheckPassed"
  | .healthCheckExhausted _ => "healthCheckExhausted"
  | .startupTimeout => "startupTimeout"

def attempts? : ReadinessSignal → Option Nat
  | .healthCheckPassed n | .healthCheckExhausted n => some n
  | _ => none

def toJson (s : ReadinessSignal) : JsonValue :=
  .object ((signalKey, .text (key s.tag)) ::
    (match s.attempts? with | some n => [(attemptsKey, attemptsJson n)] | none => []))

/-- Lists and objects may not be nested any deeper. -/
def maxDepth : Nat := 127

def maxAttempts : Int := 4294967295

/-- A kind that needs nothing more, or one that needs its attempts. -/
inductive Kind where
  | bare (s : ReadinessSignal)
  | counted (f : Nat → ReadinessSignal)

def kinds : List (String × Kind) :=
  [("outputMatched", .bare .outputMatched), ("healthCheckPassed", .counted .healthCheckPassed),
    ("healthCheckExhausted", .counted .healthCheckExhausted),
    ("startupTimeout", .bare .startupTimeout)]

def kind? : JsonValue → Option Kind
  | .text t => (kinds.find? fun k => key k.1 == t).map (·.2)
  | _ => none

def counted? (f : Nat → ReadinessSignal) (v : JsonValue) : Option ReadinessSignal :=
  (integer? 0 maxAttempts v).map fun i => f i.toNat

def ofMembers? (members : List (JsonText × JsonValue)) : Option ReadinessSignal :=
  match valuesOf signalKey members with
  | [v] =>
    match kind? v with
    | some (.bare s) => some s
    | some (.counted f) =>
      match valuesOf attemptsKey members with
      | [n] => counted? f n
      | _ => none
    | none => none
  | _ => none

def ofItems? : List JsonValue → Option ReadinessSignal
  | [v] =>
    match kind? v with
    | some (.bare s) => some s
    | _ => none
  | [v, n] =>
    match kind? v with
    | some (.counted f) => counted? f n
    | _ => none
  | _ => none

/-- An object with one signal and, where the kind counts, one number of attempts, other members
aside; or both in a list. -/
def ofJson? (v : JsonValue) : Option ReadinessSignal :=
  if v.isPlain && v.depth ≤ maxDepth then
    match v with
    | .object members => ofMembers? members
    | .list items => ofItems? items
    | _ => none
  else none

end ReadinessSignal

namespace Serial

/-- Reads a whole text as a value of a type. -/
def decode? {α : Type} (ofJson? : JsonValue → Option α) (text : String) : Option α :=
  (JsonValue.read? text.toList).bind ofJson?

end Serial
end DesktopHost
