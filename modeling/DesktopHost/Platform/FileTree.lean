import DesktopHost.Platform.Failure
import DesktopHost.Platform.Path

/-!
The files a host offers, and what looking one up, running one or making a directory gives.
A look-up walks the parts of a path; every part but the last must lead to a directory.
-/

set_option autoImplicit false

namespace DesktopHost

inductive FileNode where
  | dir
  | file (runnable : Bool)
  deriving DecidableEq, Repr

/-- Nodes by the names that lead to them from the root; the root is always there. -/
structure FileTree where
  nodes : List (List Bytes × FileNode)
  deriving Repr

namespace FileTree

def node? (t : FileTree) (names : List Bytes) : Option FileNode :=
  if names.isEmpty then some .dir else (t.nodes.find? (·.1 == names)).map (·.2)

/-- No file has a longer name. -/
def maxName : Nat := 255

/-- No longer path is looked up. -/
def maxPath : Nat := 4095

/-- Walks on from a directory or file that was reached through `names`. -/
def walk (t : FileTree) (names : List Bytes) : List Bytes → Except Failure (List Bytes)
  | [] => .ok names
  | part :: rest =>
    match t.node? names with
    | none => .error .noSuchFile
    | some (.file _) => .error .notADirectory
    | some .dir =>
      if Path.isSelf part then t.walk names rest
      else if part == Path.up then t.walk names.dropLast rest
      else if maxName < part.length then .error .nameTooLong
      else t.walk (names ++ [part]) rest

/-- The directory a path is seen from. -/
def start (cwd : List Bytes) (p : Path) : List Bytes := if p.isAbsolute then [] else cwd

/-- The names a path leads to, seen from the directory `cwd`. -/
def locate (t : FileTree) (cwd : List Bytes) (p : Path) : Except Failure (List Bytes × FileNode) :=
  if p.isEmpty then .error .noSuchFile
  else if maxPath < p.length then .error .nameTooLong
  else do
    let names ← t.walk (start cwd p) (Path.split p)
    match t.node? names with
    | some n => .ok (names, n)
    | none => .error .noSuchFile

def has (t : FileTree) (cwd : List Bytes) (p : Path) : Bool := (t.locate cwd p).isOk

/-- The file that is run for `p`; only a runnable file can be. -/
def runnable (t : FileTree) (cwd : List Bytes) (p : Path) : Except Failure (List Bytes) := do
  let (names, n) ← t.locate cwd p
  match n with
  | .file true => .ok names
  | _ => .error .permissionDenied

/-- The directory that `p` names. -/
def directory (t : FileTree) (cwd : List Bytes) (p : Path) : Except Failure (List Bytes) := do
  let (names, n) ← t.locate cwd p
  match n with
  | .dir => .ok names
  | .file _ => .error .notADirectory

/-- Makes one directory where there is nothing yet, in a directory that is there. -/
def makeDir (t : FileTree) (cwd : List Bytes) (p : Path) : Except Failure FileTree :=
  if p.isEmpty then .error .noSuchFile
  else if maxPath < p.length then .error .nameTooLong
  else
    let parts := (Path.split p).reverse.dropWhile (· == []) |>.reverse
    match parts.getLast? with
    | none => .error .fileExists
    | some last => do
      let names ← t.walk (start cwd p) parts
      if Path.isSelf last || last == Path.up || (t.node? names).isSome then throw .fileExists
      return ⟨t.nodes ++ [(names, .dir)]⟩

def isDir (t : FileTree) (cwd : List Bytes) (p : Path) : Bool := (t.directory cwd p).isOk

/-- What is left to complain about when a directory could not be made. -/
def complaint (t : FileTree) (cwd : List Bytes) (p : Path) (f : Failure) : Option Failure :=
  if t.isDir cwd p then none else some f

/-- Makes a directory and those that lead to it, where they are missing. What was made before a
failure stays. -/
def makeDirs (t : FileTree) (cwd : List Bytes) (p : Path) : FileTree × Option Failure :=
  if p.isEmpty then (t, none)
  else
    match t.makeDir cwd p with
    | .ok t => (t, none)
    | .error f =>
      if f = .noSuchFile then
        match _h : p.parent? with
        | none => (t, some f)
        | some parent =>
          match t.makeDirs cwd parent with
          | (t, some f) => (t, some f)
          | (t, none) =>
            match t.makeDir cwd p with
            | .ok t => (t, none)
            | .error f => (t, t.complaint cwd p f)
      else (t, t.complaint cwd p f)
termination_by p.length
decreasing_by exact Path.parent?_length _h

/-- Names of the files on a path, for use as keys. -/
def names (p : Path) : List Bytes := (Path.split p).filter (!Path.isSelf ·)

def ofList (dirs : List Path) (files : List (Path × Bool)) : FileTree :=
  ⟨dirs.map (fun d => (names d, .dir)) ++ files.map fun f => (names f.1, .file f.2)⟩

end FileTree
end DesktopHost
