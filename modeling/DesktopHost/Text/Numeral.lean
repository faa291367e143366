/-!
Decimal numerals as users write them: ASCII digits, an optional sign, and bounds. Other bases are
read digit by digit.
-/

set_option autoImplicit false

namespace DesktopHost.Numeral

def isDigit (c : Char) : Bool := '0' ≤ c && c ≤ '9'

def value (ds : List Char) : Nat := ds.foldl (fun n c => n * 10 + (c.toNat - '0'.toNat)) 0

def hexDigit? (c : Char) : Option Nat :=
  if isDigit c then some (c.toNat - '0'.toNat)
  else if 'a' ≤ c && c ≤ 'f' then some (c.toNat - 'a'.toNat + 10)
  else if 'A' ≤ c && c ≤ 'F' then some (c.toNat - 'A'.toNat + 10)
  else none

/-- The value of digits in a base up to sixteen. -/
def inBase (base : Nat) (cs : List Char) : Nat :=
  cs.foldl (fun n c => n * base + (hexDigit? c).getD 0) 0

/-- One digit or more, and nothing else. -/
def natural? (cs : List Char) : Option Nat :=
  if !cs.isEmpty && cs.all isDigit then some (value cs) else none

/-- A number up to `max`, with or without a plus sign. -/
def unsigned? (max : Nat) (cs : List Char) : Option Nat :=
  let n :=
    match cs with
    | '+' :: r => natural? r
    | _ => natural? cs
  n.bind fun n => if n ≤ max then some n else none

/-- A number of either sign that fits 64 bits. -/
def signed? (cs : List Char) : Option Int :=
  match cs with
  | '-' :: r => (natural? r).bind fun n => if n ≤ 9223372036854775808 then some (-(n : Int)) else none
  | _ => (unsigned? 9223372036854775807 cs).map Int.ofNat

theorem isDigit_eq (c : Char) : isDigit c = c.isDigit := rfl

theorem value_eq (ds : List Char) : value ds = Nat.ofDigitChars 10 ds 0 := by
  simp only [value, Nat.ofDigitChars_eq_foldl, Nat.mul_comm]

@[simp] theorem value_toDigits (n : Nat) : value (Nat.toDigits 10 n) = n := by
  rw [value_eq, Nat.ofDigitChars_ten_toDigits]

theorem isDigit_of_mem_toDigits {n : Nat} {c : Char} (h : c ∈ Nat.toDigits 10 n) :
    isDigit c = true := by
  rw [isDigit_eq]
  exact Nat.isDigit_of_mem_toDigits (by decide) (by decide) h

theorem natural?_toDigits (n : Nat) : natural? (Nat.toDigits 10 n) = some n := by
  have hall : (Nat.toDigits 10 n).all isDigit = true :=
    List.all_eq_true.2 fun c => isDigit_of_mem_toDigits
  simp [natural?, hall]

/-- Digits as they are written begin with no sign. -/
theorem unsigned?_toDigits {max n : Nat} (h : n ≤ max) :
    unsigned? max (Nat.toDigits 10 n) = some n := by
  unfold unsigned?
  split
  · next r hr =>
    have hsign : '+' ∈ Nat.toDigits 10 n := hr ▸ List.mem_cons_self
    exact absurd (isDigit_of_mem_toDigits hsign) (by decide)
  · simp [natural?_toDigits, h]

theorem signed?_toDigits {n : Nat} (h : n ≤ 9223372036854775807) :
    signed? (Nat.toDigits 10 n) = some (n : Int) := by
  unfold signed?
  split
  · next r hr =>
    have hsign : '-' ∈ Nat.toDigits 10 n := hr ▸ List.mem_cons_self
    exact absurd (isDigit_of_mem_toDigits hsign) (by decide)
  · rw [unsigned?_toDigits h]
    rfl

end DesktopHost.Numeral
