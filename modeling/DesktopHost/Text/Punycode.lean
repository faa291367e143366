import DesktopHost.Text.Numeral

/-!
Names in plain characters for names that have others: the plain characters come first, and behind
a hyphen stand numbers that say which characters are inserted where, in rising order.
-/

set_option autoImplicit false

namespace DesktopHost.Punycode

/-- Value of a digit of base 36, letters first. -/
def digit? (c : Char) : Option Nat :=
  if 'a' ≤ c && c ≤ 'z' then some (c.toNat - 'a'.toNat)
  else if Numeral.isDigit c then some (c.toNat - '0'.toNat + 26)
  else none

def digit (n : Nat) : Char :=
  if n < 26 then Char.ofNat ('a'.toNat + n) else Char.ofNat ('0'.toNat + n - 26)

/-- A digit below the threshold ends a number. -/
def threshold (k bias : Nat) : Nat :=
  if k ≤ bias then 1 else if bias + 26 ≤ k then 26 else k - bias

def settle (delta k : Nat) : Nat × Nat :=
  if 455 < delta then settle (delta / 35) (k + 36) else (delta, k)
termination_by delta
decreasing_by omega

/-- The bias for the next number, after `delta` among `count` characters. -/
def adapt (delta count : Nat) (first : Bool) : Nat :=
  let d := if first then delta / 700 else delta / 2
  let r := settle (d + d / count) 0
  r.2 + 36 * r.1 / (r.1 + 38)

/-- Numbers from here on are too large. -/
def limit : Nat := Nat.pow 2 32

/-- Reads one number of digits with growing weights; gives it and the rest. -/
def offset? (bias : Nat) : List Char → Nat → Nat → Nat → Option (Nat × List Char)
  | [], _, _, _ => none
  | c :: rest, k, w, i =>
    match digit? c with
    | none => none
    | some d =>
      let t := threshold k bias
      if limit ≤ i + d * w then none
      else if d < t then some (i + d * w, rest)
      else if limit ≤ w * (36 - t) then none
      else offset? bias rest (k + 36) (w * (36 - t)) (i + d * w)

theorem offset?_shorter (bias : Nat) (cs : List Char) (k w i : Nat) (r : Nat × List Char)
    (h : offset? bias cs k w i = some r) : r.2.length < cs.length := by
  induction cs generalizing k w i with
  | nil => simp [offset?] at h
  | cons c rest ih =>
    simp only [offset?] at h
    split at h
    · simp at h
    · split at h
      · simp at h
      · split at h
        · cases h; simp
        · split at h
          · simp at h
          · have := ih _ _ _ h
            simp only [List.length_cons]; omega

/-- Inserts one character per number, in rising order of code points. -/
def insertAll (bias n i : Nat) (out : List Char) (cs : List Char) : Option (List Char) :=
  match cs with
  | [] => some out
  | c :: rest =>
    match _h : offset? bias (c :: rest) 36 1 i with
    | none => none
    | some (j, left) =>
      let count := out.length + 1
      let n' := n + j / count
      if n'.isValidChar then
        insertAll (adapt (j - i) count (i == 0)) n' (j % count + 1)
          (out.insertIdx (j % count) (Char.ofNat n')) left
      else none
termination_by cs.length
decreasing_by exact offset?_shorter bias (c :: rest) 36 1 i (j, left) _h

/-- The bias of the first number. -/
def firstBias : Nat := 72

/-- The least character that is inserted. -/
def firstInserted : Nat := 0x80

/-- The name that coded text stands for. A hyphen needs plain characters before it. -/
def decode? (cs : List Char) : Option (List Char) :=
  let tail := (cs.reverse.takeWhile (· != '-')).reverse
  let plain := (cs.take (cs.length - tail.length)).dropLast
  if plain.isEmpty then insertAll firstBias firstInserted 0 [] cs
  else insertAll firstBias firstInserted 0 plain tail

theorem threshold_pos (k bias : Nat) : 0 < threshold k bias := by
  unfold threshold
  split
  · omega
  · split <;> omega

/-- The digits of `q`, least first. -/
def number (bias k q : Nat) : List Char :=
  let t := threshold k bias
  if q < t then [digit q]
  else digit (t + (q - t) % (36 - t)) :: number bias (k + 36) ((q - t) / (36 - t))
termination_by q
decreasing_by
  have hpos := threshold_pos k bias
  have hdiv := Nat.div_le_self (q - threshold k bias) (36 - threshold k bias)
  omega

/-- A name being coded: its numbers so far, the positions passed since the last one, the bias, how
many characters are done, and the least character that is left. -/
structure Encoder where
  digits : List Char
  passed : Nat
  bias : Nat
  done : Nat
  next : Nat

namespace Encoder

def new (plain : Nat) : Encoder := ⟨[], 0, firstBias, plain, firstInserted⟩

/-- Meets the character `c` of the name while the characters `n` are inserted. -/
def meet (plain n : Nat) (e : Encoder) (c : Char) : Encoder :=
  if c.toNat < n then { e with passed := e.passed + 1 }
  else if c.toNat = n then
    { e with
      digits := e.digits ++ number e.bias 36 e.passed
      passed := 0
      bias := adapt e.passed (e.done + 1) (e.done == plain)
      done := e.done + 1 }
  else e

def insert (plain : Nat) (cs : List Char) (e : Encoder) (n : Nat) : Encoder :=
  let e := { e with passed := e.passed + (n - e.next) * (e.done + 1) }
  let e := cs.foldl (meet plain n) e
  { e with passed := e.passed + 1, next := n + 1 }

end Encoder

def isPlain (c : Char) : Bool := c.toNat < firstInserted

def encode (cs : List Char) : List Char :=
  let plain := cs.filter isPlain
  let others := (((cs.filter (!isPlain ·)).map Char.toNat).eraseDups).mergeSort
  (if plain.isEmpty then [] else plain ++ ['-']) ++
    (others.foldl (Encoder.insert plain.length cs) (.new plain.length)).digits

end DesktopHost.Punycode
