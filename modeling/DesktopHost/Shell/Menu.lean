/-!
The application menu: a table of sections, and what each of its items does.
-/

set_option autoImplicit false

namespace DesktopHost

inductive MenuAction where
  /-- Points the main window at a path of the hosted interface. -/
  | navigate (path : String)
  | reload
  | forceReload
  | toggleDevTools
  | resetZoom
  | zoomIn
  | zoomOut
  | toggleFullscreen
  | quit
  /-- Leads to the system's browser. -/
  | openExternal (url : String)
  | about
  deriving DecidableEq, Repr

structure MenuItem where
  id : String
  label : String
  accelerator : Option String
  action : MenuAction
  deriving DecidableEq, Repr

inductive MenuEntry where
  | item (i : MenuItem)
  | separator
  deriving DecidableEq, Repr

namespace MenuEntry

def item? : MenuEntry → Option MenuItem
  | .item i => some i
  | .separator => none

end MenuEntry

/-- Sections and items can be used at any time. -/
structure MenuSection where
  label : String
  entries : List MenuEntry
  deriving DecidableEq, Repr

namespace Menu

def entry (id label : String) (accelerator : Option String) (action : MenuAction) : MenuEntry :=
  .item ⟨id, label, accelerator, action⟩

def fileSection : MenuSection := ⟨"File", [
  entry "new_tournament" "New Tournament" (some "CmdOrCtrl+N") (.navigate "/tournaments/new"),
  .separator,
  entry "refresh" "Refresh" (some "F5") .reload,
  .separator,
  entry "exit" "Exit" (some "CmdOrCtrl+Q") .quit]⟩

def viewSection : MenuSection := ⟨"View", [
  entry "reload" "Reload" (some "CmdOrCtrl+R") .reload,
  entry "force_reload" "Force Reload" (some "CmdOrCtrl+Shift+R") .forceReload,
  entry "toggle_devtools" "Toggle Developer Tools" (some "CmdOrCtrl+Alt+I") .toggleDevTools,
  .separator,
  entry "reset_zoom" "Actual Size" (some "CmdOrCtrl+0") .resetZoom,
  entry "zoom_in" "Zoom In" (some "CmdOrCtrl+Plus") .zoomIn,
  entry "zoom_out" "Zoom Out" (some "CmdOrCtrl+-") .zoomOut,
  .separator,
  entry "toggle_fullscreen" "Toggle Full Screen" (some "F11") .toggleFullscreen]⟩

def tournamentSection : MenuSection := ⟨"Tournament", [
  entry "dashboard" "Dashboard" none (.navigate "/dashboard"),
  entry "manage_tournaments" "Manage Tournaments" none (.navigate "/tournaments")]⟩

def helpSection : MenuSection := ⟨"Help", [
  entry "documentation" "Documentation" none (.openExternal "https://docs.bracketapp.nl"),
  entry "report_issue" "Report Issue" none
    (.openExternal "https://github.com/evroon/bracket/issues"),
  .separator,
  entry "about" "About" none .about]⟩

def sections : List MenuSection := [fileSection, viewSection, tournamentSection, helpSection]

def items : List MenuItem := sections.flatMap fun s => s.entries.filterMap (·.item?)

/-- What a click on an item does. -/
def action? (id : String) : Option MenuAction := (items.find? (·.id == id)).map (·.action)

/-- Building the menu gives the whole table, unless the toolkit fails with some text. -/
def build (failure : Option String) : Except String (List MenuSection) :=
  match failure with
  | some text => .error text
  | none => .ok sections

end Menu
end DesktopHost
