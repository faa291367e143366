import DesktopHost.Text.Numeral
import DesktopHost.Text.Search

/-!
Tables over code points. A long table is written as text: its rows stand between blanks and line
ends, and each names a code point, or an inclusive range, in hexadecimal, with a value after a colon
if the table holds values.
-/

set_option autoImplicit false

namespace DesktopHost

/-- What a table says of the code points from `first` to `last`. -/
structure CodeRow (α : Type) where
  first : Nat
  last : Nat
  value : α
  deriving Repr

abbrev CodeTable (α : Type) := List (CodeRow α)

namespace CodeTable

def hexadecimal (cs : List Char) : Nat := Numeral.inBase 16 cs

/-- Code points with a full stop between them. -/
def sequence (cs : List Char) : List Nat := (splitOn '.' cs).map hexadecimal

/-- The ends of a range; a lone code point is both. -/
def bounds (cs : List Char) : Nat × Nat :=
  match splitOn '-' cs with
  | [first, last] => (hexadecimal first, hexadecimal last)
  | _ => (hexadecimal cs, hexadecimal cs)

def rows (text : String) : List (List Char) :=
  ((text.splitOn "\n").flatMap fun line => (line.splitOn " ").map String.toList).filter
    (!·.isEmpty)

def row? {α : Type} (read : List Char → Option α) (cs : List Char) : Option (CodeRow α) :=
  match splitOn ':' cs with
  | [range, value] => (read value).map fun v => ⟨(bounds range).1, (bounds range).2, v⟩
  | _ => none

def ofText {α : Type} (read : List Char → Option α) (text : String) : CodeTable α :=
  (rows text).filterMap (row? read)

def row {α : Type} (t : CodeTable α) (n : Nat) : Option (CodeRow α) :=
  t.find? fun r => r.first ≤ n && n ≤ r.last

def get? {α : Type} (t : CodeTable α) (n : Nat) : Option α := (t.row n).map (·.value)

end CodeTable

/-- Inclusive ranges of code points. -/
abbrev Ranges := List (Nat × Nat)

namespace Ranges

def ofText (text : String) : Ranges := (CodeTable.rows text).map CodeTable.bounds

def has (rs : Ranges) (n : Nat) : Bool := rs.any fun r => r.1 ≤ n && n ≤ r.2

end Ranges
end DesktopHost
