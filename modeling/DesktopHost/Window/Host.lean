import DesktopHost.World.Lemmas

/-!
The host of the one window: it opens a window only where none is open, and its window and the
backend live apart.
-/

set_option autoImplicit false

namespace DesktopHost

structure WindowHost where
  isOpen : Bool
  deriving DecidableEq, Repr

namespace WindowHost

def new : WindowHost := ⟨false⟩

/-- Opens a window on `url` unless one is open. -/
def create (h : WindowHost) (w : World) (url : String) : World × WindowHost × WindowCreation :=
  if h.isOpen then (w.note (.windowAlreadyOpen url), h, .alreadyOpen)
  else
    match w.openWindow url with
    | (w, .ok _) => (w, ⟨true⟩, .created)
    | (w, .error e) => (w, h, .failed e)

/-- Takes note that the window is gone; tells whether there was one. -/
def close (h : WindowHost) (w : World) : World × WindowHost × Bool :=
  (if h.isOpen then w.note .windowClosed else w, ⟨false⟩, h.isOpen)

theorem create_commandsLeft (h : WindowHost) (w : World) (url : String) :
    (h.create w url).1.commandsLeft = w.commandsLeft := by
  unfold create
  split
  · rfl
  · have hf := w.openWindow_frame url
    have hc : (w.openWindow url).1.commandsLeft = w.commandsLeft := by
      simp only [World.commandsLeft, hf.1, hf.2.2]
    split <;> next hw => rw [hw] at hc; exact hc

theorem close_commandsLeft (h : WindowHost) (w : World) :
    (h.close w).1.commandsLeft = w.commandsLeft := by
  unfold close; dsimp only; split <;> rfl

end WindowHost
end DesktopHost
