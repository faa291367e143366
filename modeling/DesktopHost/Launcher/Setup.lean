import DesktopHost.CommandLine.Reading
import DesktopHost.Launcher.Error
import DesktopHost.Session.Run

/-!
From options to a session: the configuration they amount to, the executable it leads to, and a
session for both.
-/

set_option autoImplicit false

namespace DesktopHost

/-- The defaults of the mode with the given options laid over them. A tab of the browser cannot be
brought back, so a launched session ends with its window on every system. -/
def Options.overlay (o : Options) (platform : Platform := .linux) : Config :=
  let c := Config.forMode (.ofDevFlag o.dev) platform
  { c with
    port := o.port.getD c.port
    backendPath := o.backendPath
    devFrontendUrl := o.devUrl.getD c.devFrontendUrl
    shutdownGrace := (o.shutdownGrace.map UInt64.toNat).getD c.shutdownGrace
    quitOnLastWindowClosed := true }

/-- A sound configuration, or why there is none. -/
def Options.config (o : Options) (platform : Platform := .linux) : Except LauncherError Config :=
  match (o.overlay platform).validate with
  | .ok _ => .ok (o.overlay platform)
  | .error e => .error (.ofConfig e)

namespace Launcher

def executable (home : Installation) (env : Environment) (c : Config) :
    Except LauncherError Path :=
  match Backend.locate home env c.mode c.backendPath with
  | .ok p => .ok p
  | .error e => .error (.ofLocate e)

/-- A session for the options, before anything has happened in its world. -/
def prepare (home : Installation) (env : Environment) (o : Options) (w : World) :
    Except LauncherError Session := do
  let c ← o.config
  let program ← executable home env c
  match Session.new c program w with
  | .ok s => return s
  | .error e => throw (.ofConfig e)

end Launcher
end DesktopHost
