import DesktopHost.Problem
import DesktopHost.Text.Quoted

/-!
The one window of a session.
-/

set_option autoImplicit false

namespace DesktopHost

namespace WindowError

def message : WindowError → String
  | .unavailable => "Window surface unavailable"
  | .create reason => "Failed to create window: " ++ reason

def debug : WindowError → String
  | .unavailable => "Unavailable"
  | .create reason => "Create(" ++ Quoted.quote reason ++ ")"

end WindowError

/-- What asking for the window gave. -/
inductive WindowCreation where
  | created
  | alreadyOpen
  | failed (e : WindowError)
  deriving DecidableEq, Repr

end DesktopHost
