import DesktopHost.World.Basic

/-!
Reading the record of a world: the events without the lines, and the lines by the pipe that they
came through.
-/

set_option autoImplicit false

namespace DesktopHost

def Event.isLine : Event → Bool
  | .line .. => true
  | _ => false

/-- A pipe is known by the number of its process and its stream. -/
structure Pipe where
  pid : Option Nat
  stream : StreamKind
  deriving DecidableEq, Repr

def Pipe.name (p : Pipe) : String := pidText p.pid ++ " " ++ p.stream.name

def Event.line? : Event → Option (Pipe × String)
  | .line pid stream text => some (⟨pid, stream⟩, text)
  | _ => none

namespace World

/-- Everything that happened apart from the lines, oldest first. -/
def shownEvents (w : World) : List (Nat × Event) := w.events.filter fun e => !e.2.isLine

/-- Every line that was read, oldest first. -/
def lines (w : World) : List (Pipe × String) := w.events.filterMap fun e => e.2.line?

/-- The pipes that gave a line, in the order of their first ones. -/
def pipes (w : World) : List Pipe := (w.lines.map (·.1)).eraseDups

def linesOf (w : World) (p : Pipe) : List String :=
  (w.lines.filter (·.1 = p)).map (·.2)

/-- A world whose record starts anew. -/
def forget (w : World) : World := { w with trace := [] }

end World
end DesktopHost
