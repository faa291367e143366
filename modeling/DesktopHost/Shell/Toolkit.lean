import DesktopHost.Problem
import DesktopHost.Shell.Zoom

/-!
What the shell asks of its window toolkit.
-/

set_option autoImplicit false

namespace DesktopHost

inductive DialogKind where
  | info | error
  deriving DecidableEq, Repr

def DialogKind.name : DialogKind → String
  | .info => "Info"
  | .error => "Error"

/-- The window as it is asked for; sizes are width and height. -/
structure WindowPlan where
  label : String
  url : String
  title : String
  size : Nat × Nat
  minSize : Nat × Nat
  deriving DecidableEq, Repr

inductive ToolkitCall where
  | buildWindow (plan : WindowPlan)
  | runScript (script : String)
  | openDevTools
  | closeDevTools
  | setZoom (z : Zoom)
  | setFullscreen (on : Bool)
  /-- A blocking dialog waits until the user has closed it. -/
  | dialog (d : Dialog) (kind : DialogKind) (blocking : Bool)
  deriving DecidableEq, Repr

end DesktopHost
