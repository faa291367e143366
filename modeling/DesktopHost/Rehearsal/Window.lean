import DesktopHost.Window.Host
import DesktopHost.World.Record

/-!
A rehearsal of the window host: a list of acts on one host over a scripted surface.
-/

set_option autoImplicit false

namespace DesktopHost

inductive WindowAct where
  | create (url : String)
  | close
  deriving DecidableEq, Repr

inductive WindowAnswer where
  | created (c : WindowCreation)
  | closed (was : Bool)
  deriving DecidableEq, Repr

structure WindowView where
  answer : WindowAnswer
  isOpen : Bool
  /-- What happened since the act before. -/
  events : List (Nat × Event)

namespace WindowHost

def act (h : WindowHost) (w : World) : WindowAct → World × WindowHost × WindowAnswer
  | .create url =>
    let (w, h, c) := h.create w url
    (w, h, .created c)
  | .close =>
    let (w, h, was) := h.close w
    (w, h, .closed was)

/-- What is seen after each of a list of acts. -/
def rehearse (h : WindowHost) (w : World) : List WindowAct → List WindowView
  | [] => []
  | a :: rest =>
    let (w', h', answer) := h.act w a
    ⟨answer, h'.isOpen, w'.shownEvents⟩ :: rehearse h' w'.forget rest

end WindowHost
end DesktopHost
