import DesktopHost.CommandLine.Options

/-!
Reading arguments from left to right. A setting may stand apart from its value; it is settled when
the next known option begins, or at the end, so a fault in it shows no earlier.
-/

set_option autoImplicit false

namespace DesktopHost

/-- The form of one argument. -/
inductive ArgumentForm where
  /-- Two dashes alone: no option follows. -/
  | escape
  | long (name : List Char) (value : Option (List Char))
  | cluster (letters : List Char)
  /-- A lone dash and the empty text are of this form too. -/
  | plain (text : List Char)
  deriving DecidableEq, Repr

namespace ArgumentForm

/-- Cuts a text at its first equals sign. -/
def cutValue : List Char → List Char × Option (List Char)
  | [] => ([], none)
  | '=' :: r => ([], some r)
  | c :: r => (c :: (cutValue r).1, (cutValue r).2)

def ofChars : List Char → ArgumentForm
  | ['-', '-'] => .escape
  | '-' :: '-' :: r => .long (cutValue r).1 (cutValue r).2
  | ['-'] => .plain ['-']
  | '-' :: r => .cluster r
  | cs => .plain cs

theorem cutValue_append (name value : List Char) (h : '=' ∉ name) :
    cutValue (name ++ '=' :: value) = (name, some value) := by
  induction name with
  | nil => rfl
  | cons c r ih =>
    have hc : c ≠ '=' := fun e => h (e ▸ List.mem_cons_self)
    have hr : '=' ∉ r := fun e => h (List.mem_cons_of_mem _ e)
    rw [List.cons_append, cutValue.eq_def]
    split
    · next he => cases he
    · next he => injection he with h₁ h₂; exact absurd h₁ hc
    · next he =>
      injection he with h₁ h₂
      subst h₁ h₂
      rw [ih hr]

end ArgumentForm

inductive OptionKind where
  | switch (s : Switch)
  | setting (s : Setting)
  | query (q : Query)
  deriving DecidableEq, Repr

def longOptions : List (List Char × OptionKind) := [
  (['d', 'e', 'v'], .switch .dev),
  (['p', 'o', 'r', 't'], .setting .port),
  (['b', 'a', 'c', 'k', 'e', 'n', 'd', '-', 'p', 'a', 't', 'h'], .setting .backendPath),
  (['d', 'e', 'v', '-', 'u', 'r', 'l'], .setting .devUrl),
  (['s', 'h', 'u', 't', 'd', 'o', 'w', 'n', '-', 'g', 'r', 'a', 'c', 'e', '-', 'm', 's'],
    .setting .shutdownGrace),
  (['h', 'e', 'a', 'd', 'l', 'e', 's', 's'], .switch .headless),
  (['v', 'e', 'r', 'b', 'o', 's', 'e'], .switch .verbose),
  (['h', 'e', 'l', 'p'], .query .help),
  (['v', 'e', 'r', 's', 'i', 'o', 'n'], .query .version)]

def shortOptions : List (Char × OptionKind) :=
  [('v', .switch .verbose), ('h', .query .help), ('V', .query .version)]

/-- Why the reading of arguments stopped. -/
inductive Stop where
  | fault (e : ArgumentError)
  | asked (q : Query)
  deriving DecidableEq, Repr

/-- A setting that still waits for its value, or to be settled with it. -/
structure PendingSetting where
  setting : Setting
  value : Option Bytes
  deriving DecidableEq, Repr

structure ArgumentReader where
  options : Options
  pending : Option PendingSetting
  /-- Whether options have been ended. -/
  escaped : Bool
  deriving DecidableEq, Repr

namespace ArgumentReader

def new : ArgumentReader := ⟨.none, none, false⟩

def fault {α : Type} (e : ArgumentError) : Except Stop α := .error (.fault e)

def orFault {α : Type} : Except ArgumentError α → Except Stop α
  | .ok a => .ok a
  | .error e => fault e

/-- Settles the setting that waits, if any; it has to have a value by now. -/
def settle (r : ArgumentReader) : Except Stop ArgumentReader :=
  match r.pending with
  | none => .ok r
  | some ⟨_, none⟩ => fault .invalidValue
  | some ⟨s, some v⟩ =>
    (orFault (r.options.assignOnce s v)).map fun o => { r with options := o, pending := none }

def turnOn (r : ArgumentReader) (s : Switch) : Except Stop ArgumentReader := do
  let r ← r.settle
  let o ← orFault (r.options.turnOnOnce s)
  return { r with options := o }

def ask (r : ArgumentReader) (q : Query) : Except Stop ArgumentReader := do
  let _ ← r.settle
  throw (.asked q)

/-- A setting with its value attached is settled at once. -/
def attach (r : ArgumentReader) (s : Setting) (v : Bytes) : Except Stop ArgumentReader := do
  let r ← r.settle
  let o ← orFault (r.options.assignOnce s v)
  return { r with options := o }

def await (r : ArgumentReader) (s : Setting) : Except Stop ArgumentReader := do
  let r ← r.settle
  return { r with pending := some ⟨s, none⟩ }

def readLong (r : ArgumentReader) (name : List Char) (value : Option (List Char)) :
    Except Stop ArgumentReader :=
  match longOptions.lookup name, value with
  | none, _ => fault .unknownArgument
  | some (.setting s), some v => r.attach s (Utf8.encodeChars v)
  | some (.setting s), none => r.await s
  | some _, some _ => fault .tooManyValues
  | some (.switch s), none => r.turnOn s
  | some (.query q), none => r.ask q

def readCluster (r : ArgumentReader) : List Char → Except Stop ArgumentReader
  | [] => .ok r
  | c :: rest =>
    match shortOptions.lookup c with
    | some (.switch s) => do readCluster (← r.turnOn s) rest
    | some (.query q) => r.ask q
    | _ => fault .unknownArgument

/-- A text that is no option is the value that is waited for, or out of place. -/
def readPlain (r : ArgumentReader) (cs : List Char) : Except Stop ArgumentReader :=
  match r.pending with
  | some ⟨s, none⟩ => .ok { r with pending := some ⟨s, some (Utf8.encodeChars cs)⟩ }
  | _ => fault .unknownArgument

def read (r : ArgumentReader) (argument : List Char) : Except Stop ArgumentReader :=
  if r.escaped then fault .unknownArgument
  else
    match ArgumentForm.ofChars argument with
    | .escape => .ok { r with escaped := true }
    | .long name value => r.readLong name value
    | .cluster letters => r.readCluster letters
    | .plain cs => r.readPlain cs

/-- Settles what waits, and then takes what is missing from the environment. -/
def finish (env : Environment) (r : ArgumentReader) : Except Stop Options := do
  let r ← r.settle
  orFault (r.options.inheritAll env)

end ArgumentReader

/-- Reads all arguments, in the light of an environment. -/
def Options.read (env : Environment) (arguments : List String) : Except Stop Options := do
  let r ← arguments.foldlM (fun r a => r.read a.toList) ArgumentReader.new
  r.finish env

end DesktopHost
