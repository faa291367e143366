import DesktopHost.Text.Search

/-!
The output latch: it fires once, at the first line that holds a marker. A `LatchChannel` is a
latch together with the one receiver that waits for it.
-/

set_option autoImplicit false

namespace DesktopHost

/-- Whether a line holds one of the markers. -/
def lineSignalsReady (markers : List String) (line : String) : Bool :=
  markers.any fun m => occurs m.toList line.toList

structure Latch where
  markers : List String
  fired : Bool
  deriving DecidableEq, Repr

namespace Latch

def new (markers : List String) : Latch := ⟨markers, false⟩

/-- Offers a line; true only for the line that fires the latch. -/
def observe (l : Latch) (line : String) : Latch × Bool :=
  if !l.fired && lineSignalsReady l.markers line then ({ l with fired := true }, true)
  else (l, false)

@[simp] theorem observe_markers (l : Latch) (line : String) :
    (l.observe line).1.markers = l.markers := by
  unfold observe; split <;> rfl

theorem observe_fired (l : Latch) (line : String) :
    (l.observe line).1.fired = (l.fired || lineSignalsReady l.markers line) := by
  unfold observe
  cases h : l.fired <;> cases lineSignalsReady l.markers line <;> simp [h]

end Latch

/-- A latch and its receiver; either side may go away first. -/
structure LatchChannel where
  latch : Option Latch
  waiting : Bool
  /-- A firing that the receiver has not taken yet. -/
  sent : Bool
  deriving DecidableEq, Repr

inductive LatchPoll where
  | pending | matched | noReceiver
  deriving DecidableEq, Repr

def LatchPoll.text : LatchPoll → String
  | .pending => "pending"
  | .matched => "matched"
  | .noReceiver => "no receiver"

namespace LatchChannel

def new (markers : List String) : LatchChannel := ⟨some (.new markers), true, false⟩

/-- Offers a line to the latch, if it is still there. -/
def observe (c : LatchChannel) (line : String) : LatchChannel × Option Bool :=
  match c.latch with
  | none => (c, none)
  | some l =>
    let (l', hit) := l.observe line
    ({ c with latch := some l', sent := c.sent || hit }, some hit)

/-- Looks once whether the latch has fired; a receiver is used up by its match. -/
def poll (c : LatchChannel) : LatchChannel × LatchPoll :=
  if !c.waiting then (c, .noReceiver)
  else if c.sent then ({ c with waiting := false }, .matched)
  else (c, .pending)

def dropReceiver (c : LatchChannel) : LatchChannel × Bool := ({ c with waiting := false }, c.waiting)

def dropLatch (c : LatchChannel) : LatchChannel × Bool := ({ c with latch := none }, c.latch.isSome)

def isFired (c : LatchChannel) : Option Bool := c.latch.map (·.fired)

end LatchChannel

inductive LatchStep where
  | observe (line : String)
  | poll
  | dropReceiver
  | dropLatch
  deriving DecidableEq, Repr

inductive LatchAnswer where
  | observed (hit : Option Bool)
  | polled (p : LatchPoll)
  | dropped (was : Bool)
  deriving DecidableEq, Repr

namespace LatchChannel

def step (c : LatchChannel) : LatchStep → LatchChannel × LatchAnswer
  | .observe line => let (c', hit) := c.observe line; (c', .observed hit)
  | .poll => let (c', p) := c.poll; (c', .polled p)
  | .dropReceiver => let (c', was) := c.dropReceiver; (c', .dropped was)
  | .dropLatch => let (c', was) := c.dropLatch; (c', .dropped was)

/-- The answers to a history of steps, each with the state of the latch after it. -/
def history (c : LatchChannel) : List LatchStep → List (LatchAnswer × Option Bool)
  | [] => []
  | s :: rest =>
    let (c', a) := c.step s
    (a, c'.isFired) :: history c' rest

end LatchChannel
end DesktopHost
