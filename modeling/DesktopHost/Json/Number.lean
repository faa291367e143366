/-!
Numbers as JSON writes them. The parts of the written form are kept, so that a whole number can be
told from one written with a fraction or an exponent.
-/

set_option autoImplicit false

namespace DesktopHost

/-- The digits of a written number; the exponent carries its sign. -/
structure JsonNumber where
  negative : Bool
  whole : List Char
  fraction : Option (List Char)
  exponent : Option (List Char × List Char)
  deriving DecidableEq, Repr

namespace JsonNumber

def isDigit (c : Char) : Bool := '0' ≤ c && c ≤ '9'

def digitsValue (ds : List Char) : Nat := ds.foldl (fun n c => n * 10 + (c.toNat - '0'.toNat)) 0

/-- The value of a number written without fraction and exponent; minus zero is no whole number. -/
def integer? (n : JsonNumber) : Option Int :=
  match n.fraction, n.exponent with
  | none, none =>
    let v := digitsValue n.whole
    if n.negative then (if v = 0 then none else some (-(v : Int))) else some (v : Int)
  | _, _ => none

/-- Significands stay below this. -/
def significandLimit : Nat := Nat.pow 2 64

/-- Exponents written with a larger number stand for any large one. -/
def maxExponent : Nat := Nat.pow 2 31 - 1

/-- No power of ten beyond this one is a double. -/
def maxPower : Nat := 308

/-- The least magnitude that no double can hold. -/
def tooLarge : Nat := Nat.pow 2 1024 - Nat.pow 2 970

/-- Takes digits into a significand while it stays below the limit; gives the digits left over. -/
def gather (significand : Nat) : List Char → Nat × List Char
  | [] => (significand, [])
  | c :: r =>
    let s := significand * 10 + (c.toNat - '0'.toNat)
    if s < significandLimit then gather s r else (significand, c :: r)

/-- The significand, and the power of ten that the places of its digits stand for. Whole digits
that are left over count as zeros, digits of the fraction as nothing. -/
def scaled (n : JsonNumber) : Nat × Int :=
  let fraction := n.fraction.getD []
  let (s, wholeLeft) := gather 0 n.whole
  let (s, fractionLeft) := gather s fraction
  (s, (wholeLeft.length : Int) - ((fraction.length : Int) - fractionLeft.length))

/-- The double nearest to a whole number; a tie goes to the even neighbour. -/
def nearest (n : Nat) : Nat :=
  let unit := Nat.pow 2 (n.log2 - 52)
  let q := n / unit
  let r := n % unit
  if unit < 2 * r || (unit = 2 * r && q % 2 = 1) then (q + 1) * unit else q * unit

/-- Whether `significand * 10 ^ power`, as a product of doubles, is one. -/
def productIsFinite (significand : Nat) (power : Int) : Bool :=
  if significand = 0 || power < 0 then true
  else if maxPower < power.toNat then false
  else nearest significand * nearest (Nat.pow 10 power.toNat) < tooLarge

/-- Whether a double can hold the number, as far as it is read. -/
def isFinite (n : JsonNumber) : Bool :=
  let (significand, power) := n.scaled
  match n.exponent with
  | none => productIsFinite significand power
  | some (sign, ds) =>
    let e := digitsValue ds
    if sign == ['-'] then e > maxExponent || productIsFinite significand (power - e)
    else if maxExponent < e then significand = 0
    else productIsFinite significand (power + e)

def ofInt (i : Int) : JsonNumber := ⟨decide (i < 0), Nat.toDigits 10 i.natAbs, none, none⟩

def chars (n : JsonNumber) : List Char :=
  (if n.negative then ['-'] else []) ++ n.whole ++
    (match n.fraction with | none => [] | some ds => '.' :: ds) ++
    (match n.exponent with | none => [] | some (sign, ds) => 'e' :: (sign ++ ds))

/-- Digits from the front, at least one. -/
def digits? (cs : List Char) : Option (List Char × List Char) :=
  match cs.takeWhile isDigit with
  | [] => none
  | ds => some (ds, cs.dropWhile isDigit)

/-- The whole part: a lone zero, or digits that start with another. -/
def whole? : List Char → Option (List Char × List Char)
  | '0' :: r => some (['0'], r)
  | cs => digits? cs

def fraction? : List Char → Option (Option (List Char) × List Char)
  | '.' :: r => (digits? r).map fun p => (some p.1, p.2)
  | cs => some (none, cs)

def sign : List Char → List Char × List Char
  | '+' :: r => (['+'], r)
  | '-' :: r => (['-'], r)
  | cs => ([], cs)

def exponent? : List Char → Option (Option (List Char × List Char) × List Char)
  | c :: r =>
    if c == 'e' || c == 'E' then
      (digits? (sign r).2).map fun p => (some ((sign r).1, p.1), p.2)
    else some (none, c :: r)
  | [] => some (none, [])

def unsigned? (negative : Bool) (cs : List Char) : Option (JsonNumber × List Char) := do
  let (whole, cs) ← whole? cs
  let (fraction, cs) ← fraction? cs
  let (exponent, cs) ← exponent? cs
  return (⟨negative, whole, fraction, exponent⟩, cs)

/-- A number at the front of a text, as long as it goes. -/
def read? : List Char → Option (JsonNumber × List Char)
  | '-' :: r => unsigned? true r
  | cs => unsigned? false cs

theorem digits?_length {cs ds r : List Char} (h : digits? cs = some (ds, r)) :
    r.length < cs.length := by
  unfold digits? at h
  split at h
  · cases h
  · next hne =>
    cases h
    have hsplit := congrArg List.length (List.takeWhile_append_dropWhile (p := isDigit) (l := cs))
    rw [List.length_append] at hsplit
    have hpos : 0 < (cs.takeWhile isDigit).length := List.length_pos_iff.2 hne
    omega

theorem whole?_length {cs ds r : List Char} (h : whole? cs = some (ds, r)) :
    r.length < cs.length := by
  unfold whole? at h
  split at h
  · cases h; simp
  · exact digits?_length h

theorem fraction?_length {cs r : List Char} {f : Option (List Char)}
    (h : fraction? cs = some (f, r)) : r.length ≤ cs.length := by
  unfold fraction? at h
  split at h
  · obtain ⟨p, hp, he⟩ := Option.map_eq_some_iff.1 h
    cases he
    have := digits?_length hp
    simp only [List.length_cons]; omega
  · cases h; exact Nat.le_refl _

theorem sign_length (cs : List Char) : (sign cs).2.length ≤ cs.length := by
  unfold sign; split <;> simp

theorem exponent?_length {cs r : List Char} {e : Option (List Char × List Char)}
    (h : exponent? cs = some (e, r)) : r.length ≤ cs.length := by
  unfold exponent? at h
  split at h
  · next c t =>
    split at h
    · obtain ⟨p, hp, he⟩ := Option.map_eq_some_iff.1 h
      cases he
      have h₁ := digits?_length hp
      have h₂ := sign_length t
      simp only [List.length_cons]; omega
    · cases h; exact Nat.le_refl _
  · cases h; exact Nat.le_refl _

theorem unsigned?_length {negative : Bool} {cs r : List Char} {n : JsonNumber}
    (h : unsigned? negative cs = some (n, r)) : r.length < cs.length := by
  unfold unsigned? at h
  obtain ⟨w, hw, h⟩ := Option.bind_eq_some_iff.1 h
  obtain ⟨f, hf, h⟩ := Option.bind_eq_some_iff.1 h
  obtain ⟨e, he, h⟩ := Option.bind_eq_some_iff.1 h
  cases h
  have h₁ := whole?_length hw
  have h₂ := fraction?_length hf
  have h₃ := exponent?_length he
  omega

/-- Reading a number leaves less than there was. -/
theorem read?_length {cs r : List Char} {n : JsonNumber} (h : read? cs = some (n, r)) :
    r.length < cs.length := by
  unfold read? at h
  split at h
  · have := unsigned?_length h; simp only [List.length_cons]; omega
  · exact unsigned?_length h

end JsonNumber
end DesktopHost
