import DesktopHost.Shell.Basic
import DesktopHost.Url.Origin
import DesktopHost.Window

/-!
The native window on a page, and the rule for leaving it: an address of the page's own origin stays
in the window, and every other one goes to the system's browser.
-/

set_option autoImplicit false

namespace DesktopHost.Shell

def windowLabel : String := "main"

def windowPlan (page : Url) : WindowPlan :=
  ⟨windowLabel, page.text, productTitle, (1400, 900), (1000, 700)⟩

/-- What opening the window asks of the toolkit; developer tools only follow a window. -/
def openCalls (devTools : Bool) (failure : Option String) (page : Url) : List ToolkitCall :=
  .buildWindow (windowPlan page) ::
    (if devTools && failure.isNone then [.openDevTools] else [])

def openResult (failure : Option String) : Except WindowError Unit :=
  match failure with
  | some text => .error (.create text)
  | none => .ok ()

def mayNavigate (page target : Url) : Bool := Url.sameOrigin target page

/-- The addresses that a navigation hands to the system's browser. -/
def browsedFor (page target : Url) : List String :=
  if mayNavigate page target then [] else [target.text]

theorem browsedFor_eq_nil_iff (page target : Url) :
    browsedFor page target = [] ↔ mayNavigate page target = true := by
  unfold browsedFor; split <;> simp_all

end DesktopHost.Shell
