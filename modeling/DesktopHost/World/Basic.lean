import DesktopHost.Readiness.Latch
import DesktopHost.World.Script

/-!
The world around a session: a clock, an agenda of things due, the children spawned so far, the
scripts still to be used, the command queue, and the record of everything that happened.
-/

set_option autoImplicit false

namespace DesktopHost

structure Child where
  pid : Option Nat
  /-- The exit as the program can see it. -/
  published : Option ExitReport
  /-- Whether an exit would still be published. -/
  watched : Bool
  latch : Latch
  script : ChildScript

/-- The exit a waiting program learns of; a vanished publisher counts as an exit without code. -/
def Child.visibleExit (c : Child) : Option ExitReport :=
  match c.published with
  | some r => some r
  | none => if c.watched then none else some .unknown

/-- Only the first exit of a watched child is published. -/
def Child.publish (c : Child) (code : Option Int32) : Child :=
  match c.published with
  | some _ => c
  | none => if c.watched then { c with published := some ⟨code⟩ } else c

/-- What a session meets while it runs. Two things are left out of it: the files and the directory
stand still during a run, and nothing that a session does takes time of itself, so a dialog is closed
at the instant it is shown, and a spawn, a signal and a new window are done at once. The clock goes on
only while the session waits. -/
structure World where
  now : Nat
  /-- Sorted by time. -/
  agenda : List Due
  files : FileTree
  /-- The launcher's own directory, from which relative paths are seen. -/
  cwd : List Bytes
  /-- One entry per spawn call; a failed one leaves no child. -/
  children : List (Option Child)
  childScripts : List ChildScript
  health : List HealthAnswer
  checks : Nat
  surface : List SurfaceAnswer
  /-- Which dialogs, counted from now on, end in a panic, and with what text. -/
  panics : List (Option String)
  queue : List Command
  /-- Whether someone can still send a command. -/
  handleHeld : Bool
  /-- Whether the session still receives commands. -/
  listening : Bool
  /-- Newest first. -/
  trace : List (Nat × Event)

namespace World

def empty : World where
  now := 0
  agenda := []
  files := ⟨[]⟩
  cwd := []
  children := []
  childScripts := []
  health := []
  checks := 0
  surface := []
  panics := []
  queue := []
  handleHeld := true
  listening := true
  trace := []

def emit (w : World) (e : Event) : World := { w with trace := (w.now, e) :: w.trace }

def note (w : World) (n : Note) : World := w.emit (.note n)

/-- Everything that happened, oldest first. -/
def events (w : World) : List (Nat × Event) := w.trace.reverse

def child? (w : World) (i : Nat) : Option Child := (w.children[i]?).join

def updateChild (w : World) (i : Nat) (f : Child → Child) : World :=
  { w with children := w.children.modify i (·.map f) }

def publish (w : World) (i : Nat) (code : Option Int32) : World :=
  w.updateChild i (·.publish code)

def unwatch (w : World) (i : Nat) : World :=
  w.updateChild i fun c => { c with watched := false }

def sendCommand (w : World) (c : Command) : World :=
  if w.handleHeld then
    if w.listening then { w.emit (.command c (some true)) with queue := w.queue ++ [c] }
    else w.emit (.command c (some false))
  else w.emit (.command c none)

/-- A reader takes a line from a child: it is recorded and, on stdout, offered to the latch. -/
def readLine (w : World) (i : Nat) (stream : StreamKind) (text : String) : World :=
  match w.child? i with
  | none => w
  | some c =>
    let w := w.emit (.line c.pid stream text)
    match stream with
    | .stderr => w
    | .stdout =>
      let (latch, hit) := c.latch.observe text
      let w := w.updateChild i fun c => { c with latch := latch }
      if hit then w.note (.startupReported c.pid) else w

def occur (w : World) : Occurrence → World
  | .command c => w.sendCommand c
  | .dropHandle => { w with handleHeld := false }
  | .exit i code => (w.emit (.exit i code (w.child? i).isSome)).publish i code
  | .ownExit i code => w.publish i code
  | .unwatch i => w.unwatch i
  | .line i stream text => w.readLine i stream text
  | .nothing => w

def meet (w : World) (d : Due) : World := { w with now := max w.now d.time }.occur d.what

/-- Lets everything happen that is due up to `t`. -/
def advanceTo (w : World) (t : Nat) : World :=
  let due := w.agenda.takeWhile fun d => d.time ≤ t
  let later := w.agenda.dropWhile fun d => d.time ≤ t
  let w := due.foldl meet { w with agenda := later }
  { w with now := max w.now t }

/-- Lets the time of a sleep pass. -/
def sleep (w : World) (ms : Nat) : World := w.advanceTo (w.now + sleepLength ms)

def nextDue? (w : World) : Option Nat := w.agenda.head?.map (·.time)

def schedule (w : World) (ds : List Due) : World := { w with agenda := Due.insertAll ds w.agenda }

/-- Starts the next scripted child; what its script sets at time 0 happens before this returns. -/
def spawn (w : World) (l : Launch) : World × Except Failure Nat :=
  let (script, rest) := nextOf .inert w.childScripts
  let i := w.children.length
  let w := { w.emit (.spawn i l) with childScripts := rest }
  match script.spawnFailure with
  | some f => ({ w with children := w.children ++ [none] }, .error f)
  | none =>
    let child : Child := ⟨script.pid, none, true, .new [], script⟩
    let child :=
      match script.exit with
      | some (0, code) => child.publish code
      | _ => child
    let child := if script.unwatchAt = some 0 then { child with watched := false } else child
    let exit : List Due :=
      match script.exit with
      | some (t + 1, code) => [⟨w.now + sleepLength (t + 1), .ownExit i code⟩]
      | _ => []
    let gone : List Due :=
      match script.unwatchAt with
      | some (t + 1) => [⟨w.now + sleepLength (t + 1), .unwatch i⟩]
      | _ => []
    (({ w with children := w.children ++ [some child] }).schedule (exit ++ gone), .ok i)

/-- The lines a reader of one pipe will take, as agenda entries. -/
def linesDue (now i : Nat) (stream : StreamKind) (chunks : Option (List Chunk)) : List Due :=
  (Output.timeline (chunks.getD [])).map fun l => ⟨now + l.1, .line i stream l.2⟩

/-- Attaches readers to both pipes of a child, with a fresh latch for its stdout. -/
def attachReaders (w : World) (i : Nat) (markers : List String) : World :=
  match w.child? i with
  | none => w
  | some c =>
    let w := w.updateChild i fun c => { c with latch := .new markers }
    w.schedule (linesDue w.now i .stdout c.script.stdout ++ linesDue w.now i .stderr c.script.stderr)

/-- Sends a signal; an immediate exit happens before this returns. -/
def signal (w : World) (i : Nat) (s : TerminationSignal) : World × Except Failure Unit :=
  let w := w.emit (.signal i s)
  let reaction :=
    match w.child? i with
    | some c => c.script.reaction s
    | none => .none
  let w :=
    match reaction.exitAfter with
    | none => w
    | some 0 => w.publish i reaction.code
    | some t => w.schedule [⟨w.now + sleepLength t, .ownExit i reaction.code⟩]
  (w, match reaction.failure with | some f => .error f | none => .ok ())

/-- Starts a health check; the answer carries the instant at which it is there. -/
def startCheck (w : World) : World × Option (Nat × Except HealthFailure Unit) :=
  let (answer, rest) := nextOf .silent w.health
  let w := { w.emit (.healthCall (w.checks + 1)) with checks := w.checks + 1, health := rest }
  match answer with
  | .silent => (w, none)
  | .after delay result => (w, some (w.now + sleepLength delay, result))

def openWindow (w : World) (url : String) : World × Except WindowError Unit :=
  let (answer, rest) := nextOf .ok w.surface
  let w := { w.emit (.openWindow url) with surface := rest }
  match answer with
  | .ok => (w, .ok ())
  | .fails e => (w, .error e)

/-- Shows a dialog; gives the text of the panic it ended in, if it did. -/
def showDialog (w : World) (d : Dialog) : World × Option String :=
  let w := w.emit (.dialog d)
  match w.panics with
  | some text :: rest => ({ w with panics := rest }.note (.uncaughtPanic text), some text)
  | none :: rest => ({ w with panics := rest }, none)
  | [] => (w, none)

inductive Received where
  | command (c : Command)
  | closed
  | nothing
  deriving DecidableEq, Repr

/-- Takes the next command; an empty queue that nobody can fill is closed. -/
def receive (w : World) : World × Received :=
  match w.queue with
  | c :: rest => ({ w with queue := rest }, .command c)
  | [] => if w.handleHeld then (w, .nothing) else (w, .closed)

/-- The exit of a child that a waiting program learns of now. -/
def visibleExit (w : World) (i : Nat) : Option ExitReport := (w.child? i).bind Child.visibleExit

/-- The exit of a child that has been published. -/
def publishedExit (w : World) (i : Nat) : Option ExitReport := (w.child? i).bind Child.published

def latchFired (w : World) (i : Nat) : Bool :=
  match w.child? i with
  | some c => c.latch.fired
  | none => false

/-- Commands that are queued or still to come. -/
def commandsLeft (w : World) : Nat := w.queue.length + w.agenda.countP Due.isCommand

end World
end DesktopHost
