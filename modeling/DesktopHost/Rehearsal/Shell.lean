import DesktopHost.Rehearsal.Session
import DesktopHost.Shell.Basic

/-!
A rehearsal of the shell: a list of acts on it, and then the session that its clicks belong to.
-/

set_option autoImplicit false

namespace DesktopHost

inductive ShellAct where
  | click (id : String)
  | openWindow
  | closeWindow
  /-- From now on the window's calls fail with the text, or no longer fail. -/
  | failWith (text : Option String)
  /-- Something that the shell takes no notice of. -/
  | nothing
  deriving DecidableEq, Repr

inductive ZoomAct where
  | set (z : Zoom)
  | adjust (delta : Zoom)
  deriving DecidableEq, Repr

namespace Shell

def act (s : Shell) : ShellAct → Shell × ClickEffect
  | .click id => s.click id
  | .openWindow => ({ s with windowOpen := true }, .none)
  | .closeWindow => ({ s with windowOpen := false }, .none)
  | .failWith text => ({ s with failure := text }, .none)
  | .nothing => (s, .none)

/-- What each act leads to, and the shell after all of them. -/
def rehearse (s : Shell) : List ShellAct → List ClickEffect × Shell
  | [] => ([], s)
  | a :: rest =>
    let (s, effect) := s.act a
    let (effects, last) := s.rehearse rest
    (effect :: effects, last)

/-- A backend that is never ready and exits at once when it is asked to. -/
def promptBackend : ChildScript :=
  { ChildScript.inert with onTerminate := ⟨none, some 0, some 0⟩ }

def lastQuit : Nat := 1000

def quitAt (time : Nat) : Due := ⟨time, .command .quit⟩

/-- The shell's session over a prompt backend; besides the quits of the clicks there is a late
one. -/
def performSession (s : Shell) (files : FileTree) (program : Path) :
    Except ConfigError Performance := do
  let world := { World.empty with
    files := files
    childScripts := [promptBackend]
    health := [.silent] }
  let session ← Session.new (.forMode .production) program world
  return session.perform (List.replicate s.quits (quitAt 0) ++ [quitAt lastQuit])

end Shell

namespace Zoom

def act (z : Zoom) : ZoomAct → Zoom
  | .set z => z.clamp
  | .adjust delta => z.adjust delta

/-- The factor in force after each act. -/
def rehearse (z : Zoom) : List ZoomAct → List Zoom
  | [] => []
  | a :: rest => z.act a :: rehearse (z.act a) rest

end Zoom
end DesktopHost
