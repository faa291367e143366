import DesktopHost.Shell.Menu
import DesktopHost.Shell.Toolkit

/-!
The desktop shell around a session: the one native window with its zoom, its developer tools and
its full-screen mode, and what the items of the menu do to it.
-/

set_option autoImplicit false

namespace DesktopHost

structure Shell where
  zoom : Zoom
  windowOpen : Bool
  devToolsOpen : Bool
  fullscreen : Bool
  /-- The window's calls fail with this text. -/
  failure : Option String
  /-- How often the session has been asked to quit. -/
  quits : Nat
  deriving DecidableEq, Repr

/-- What a click leads to besides a change of the shell. -/
structure ClickEffect where
  calls : List ToolkitCall
  /-- Addresses given to the system's browser. -/
  browsed : List String
  deriving DecidableEq, Repr

namespace ClickEffect

def none : ClickEffect := ⟨[], []⟩

def call (c : ToolkitCall) : ClickEffect := ⟨[c], []⟩

def browse (url : String) : ClickEffect := ⟨[], [url]⟩

end ClickEffect

namespace Shell

def new : Shell where
  zoom := .actual
  windowOpen := false
  devToolsOpen := false
  fullscreen := false
  failure := none
  quits := 0

def productTitle : String := "Bracket Tournament System"

def version : String := "1.0.0"

def commit : String := "1.0.0"

def aboutDialog : Dialog where
  title := "About " ++ productTitle
  message := "Version: " ++ version ++ " (" ++ commit ++
    ")\nDesktop Edition\n\nA self-hosted tournament management system\n" ++
    "Built with FastAPI, Next.js, and Tauri\n\nLicense: AGPL-3.0"

/-- Problems of a session are shown before it goes on. -/
def problemCall (d : Dialog) : ToolkitCall := .dialog d .error true

def navigateScript (path : String) : String := "window.location.href = '" ++ path ++ "';"

def reloadScript : String := "window.location.reload();"

/-- Puts a zoom factor in force; it is kept even if the window then refuses it. -/
def setZoom (s : Shell) (z : Zoom) : Shell × ClickEffect :=
  ({ s with zoom := z.clamp }, .call (.setZoom z.clamp))

def adjustZoom (s : Shell) (delta : Zoom) : Shell × ClickEffect := s.setZoom (s.zoom.add delta)

def toggleDevTools (s : Shell) : Shell × ClickEffect :=
  ({ s with devToolsOpen := !s.devToolsOpen },
    .call (if s.devToolsOpen then .closeDevTools else .openDevTools))

/-- Whether the window fills the screen has to be known first. -/
def toggleFullscreen (s : Shell) : Shell × ClickEffect :=
  match s.failure with
  | some _ => (s, .none)
  | none => ({ s with fullscreen := !s.fullscreen }, .call (.setFullscreen (!s.fullscreen)))

def quit (s : Shell) : Shell × ClickEffect := ({ s with quits := s.quits + 1 }, .none)

/-- What needs the main window does nothing without it. -/
def onWindow (s : Shell) (r : Shell × ClickEffect) : Shell × ClickEffect :=
  if s.windowOpen then r else (s, .none)

def perform (s : Shell) : MenuAction → Shell × ClickEffect
  | .quit => s.quit
  | .openExternal url => (s, .browse url)
  | .about => (s, .call (.dialog aboutDialog .info false))
  | .navigate path => s.onWindow (s, .call (.runScript (navigateScript path)))
  | .reload | .forceReload => s.onWindow (s, .call (.runScript reloadScript))
  | .toggleDevTools => s.onWindow s.toggleDevTools
  | .resetZoom => s.onWindow (s.setZoom .actual)
  | .zoomIn => s.onWindow (s.adjustZoom .increment)
  | .zoomOut => s.onWindow (s.adjustZoom .decrement)
  | .toggleFullscreen => s.onWindow s.toggleFullscreen

/-- A click on something that is no item of the menu is ignored. -/
def click (s : Shell) (id : String) : Shell × ClickEffect :=
  match Menu.action? id with
  | some a => s.perform a
  | none => (s, .none)

end Shell
end DesktopHost
