import DesktopHost.Text.Canonical.Table

/-!
The composed form of text: marks stand in canonical order, and a character takes up the marks
behind it where one character stands for both. Characters that are only ever replaced by others
stay as they are.
-/

set_option autoImplicit false

namespace DesktopHost.Canonical

/-- Marks of a class other than zero can change places with those of another class. -/
def classOf (n : Nat) : Nat := (classes.get? n).getD 0

/-- The class of the marks that silence the vowel of the letter before them. -/
def silencing : Nat := 9

/-- A syllable of the Korean script is numbered by its leading letter, its vowel and its trail. -/
def syllableParts? (n : Nat) : Option (List Nat) :=
  if 0xAC00 ≤ n && n ≤ 0xD7A3 then
    let i := n - 0xAC00
    let start := [0x1100 + i / 588, 0x1161 + i % 588 / 28]
    some (if i % 28 = 0 then start else start ++ [0x11A7 + i % 28])
  else none

def joinSyllable? (a b : Nat) : Option Nat :=
  if 0x1100 ≤ a && a ≤ 0x1112 && 0x1161 ≤ b && b ≤ 0x1175 then
    some (0xAC00 + (a - 0x1100) * 588 + (b - 0x1161) * 28)
  else if 0xAC00 ≤ a && a ≤ 0xD7A3 && (a - 0xAC00) % 28 = 0 && 0x11A8 ≤ b && b ≤ 0x11C2 then
    some (a + (b - 0x11A7))
  else none

/-- The characters that a composed character is made of; any other is made of itself. -/
def parts (n : Nat) : List Nat := ((syllableParts? n).or (compositions.get? n)).getD [n]

/-- The character that stands for `a` with `b` behind it. -/
def join? (a b : Nat) : Option Nat :=
  (joinSyllable? a b).or
    ((compositions.find? fun r => r.value == parts a ++ [b]).map (·.first))

/-- Puts a ranked character in front, behind the marks that come before it. -/
def place (c : Nat × Nat) : List (Nat × Nat) → List (Nat × Nat)
  | [] => [c]
  | d :: r => if 0 < d.1 && d.1 < c.1 then d :: place c r else c :: d :: r

/-- Characters with their classes, each run of marks in rising order. -/
def inOrder (codes : List Nat) : List (Nat × Nat) :=
  codes.foldr (fun n r => place (classOf n, n) r) []

/-- Joins `base` with what follows it; `kept` are marks that stay behind it. A character joins only
if no mark of its class or a higher one stands between. -/
def composeFrom (base : Nat) (kept : List (Nat × Nat)) : List (Nat × Nat) → List Nat
  | [] => base :: kept.map (·.2)
  | c :: r =>
    let near := kept.getLast?.all fun m => m.1 < c.1
    match if near then join? base c.2 else none with
    | some joined => composeFrom joined kept r
    | none =>
      if c.1 = 0 then base :: kept.map (·.2) ++ composeFrom c.2 [] r
      else composeFrom base (kept ++ [c]) r

def composeCodes (codes : List Nat) : List Nat :=
  match inOrder (codes.flatMap parts) with
  | [] => []
  | c :: r => composeFrom c.2 [] r

def compose (cs : List Char) : List Char := (composeCodes (cs.map Char.toNat)).map Char.ofNat

end DesktopHost.Canonical
