import DesktopHost.Platform.Failure
import DesktopHost.Text.Utf8

/-!
The lines of an output stream. Bytes arrive in chunks; a line is complete at its line feed, or at
the end of the stream, and is decoded only then. A failed read ends the stream where it stands,
unless it was only interrupted.
-/

set_option autoImplicit false

namespace DesktopHost

/-- Something that happens on a stream at an instant after the spawn. -/
structure Chunk where
  time : Nat
  data : Bytes
  ends : Bool
  /-- What reading it meets first. -/
  failure : Option Failure
  deriving DecidableEq, Repr

/-- Whether reading the chunk fails for good; an interrupted read is done again. -/
def Chunk.isLost (c : Chunk) : Bool := c.failure.any fun f => f.classOf != .interrupted

namespace Output

def lineFeed : UInt8 := 0x0A

def carriageReturn : UInt8 := 0x0D

/-- The complete lines at the front, without their line feeds, and the unfinished rest. -/
def cutLines : Bytes → List Bytes × Bytes
  | [] => ([], [])
  | b :: r =>
    let (lines, rest) := cutLines r
    if b = lineFeed then ([] :: lines, rest)
    else
      match lines with
      | [] => ([], b :: rest)
      | line :: more => ((b :: line) :: more, rest)

/-- A carriage return directly before the line feed belongs to the line end. -/
def dropReturn (line : Bytes) : Bytes :=
  if line.getLast? == some carriageReturn then line.dropLast else line

/-- A reader holds the bytes of its unfinished line. -/
structure Reader where
  unfinished : Bytes
  closed : Bool
  deriving DecidableEq, Repr

def Reader.new : Reader := ⟨[], false⟩

/-- Takes in one chunk; gives the lines it completes. -/
def Reader.feed (r : Reader) (c : Chunk) : Reader × List String :=
  if r.closed then (r, [])
  else if c.isLost then ({ r with closed := true }, [])
  else
    let (lines, rest) := cutLines (r.unfinished ++ c.data)
    let complete := lines.map fun l => Utf8.lossy (dropReturn l)
    if c.ends then
      (⟨[], true⟩, complete ++ (if rest.isEmpty then [] else [Utf8.lossy rest]))
    else (⟨rest, false⟩, complete)

/-- Every line with the instant at which it is read, not before `from`. -/
def timelineFrom (r : Reader) (start : Nat) : List Chunk → List (Nat × String)
  | [] => []
  | c :: rest =>
    let time := max start c.time
    let (r', lines) := r.feed c
    lines.map (time, ·) ++ timelineFrom r' time rest

def timeline (chunks : List Chunk) : List (Nat × String) := timelineFrom .new 0 chunks

end Output
end DesktopHost
