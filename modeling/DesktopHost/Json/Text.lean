/-!
Strings as JSON writes them. An escape may name half of a surrogate pair; a half without its other
half is kept as such, and only a text without such halves is well formed.
-/

set_option autoImplicit false

namespace DesktopHost

/-- A character, or half of a surrogate pair that stands alone. -/
inductive TextPiece where
  | char (c : Char)
  | lone (unit : Nat)
  deriving DecidableEq, Repr

def TextPiece.char? : TextPiece → Option Char
  | .char c => some c
  | .lone _ => none

abbrev JsonText := List TextPiece

namespace JsonText

def ofChars (cs : List Char) : JsonText := cs.map .char

def ofString (s : String) : JsonText := ofChars s.toList

def isWellFormed (t : JsonText) : Bool := t.all (·.char?.isSome)

def hex? (c : Char) : Option Nat :=
  if '0' ≤ c && c ≤ '9' then some (c.toNat - '0'.toNat)
  else if 'a' ≤ c && c ≤ 'f' then some (c.toNat - 'a'.toNat + 10)
  else if 'A' ≤ c && c ≤ 'F' then some (c.toNat - 'A'.toNat + 10)
  else none

def unit? (a b c d : Char) : Option Nat := do
  return (((← hex? a) * 16 + (← hex? b)) * 16 + (← hex? c)) * 16 + (← hex? d)

/-- The characters that an escape of two characters stands for. -/
def shortEscapes : List (Char × Char) :=
  [('"', '"'), ('\\', '\\'), ('/', '/'), ('b', '\x08'), ('f', '\x0c'), ('n', '\n'), ('r', '\r'),
    ('t', '\t')]

def isHigh (u : Nat) : Bool := 0xD800 ≤ u && u < 0xDC00

def isLow (u : Nat) : Bool := 0xDC00 ≤ u && u < 0xE000

def ofUnit (u : Nat) : TextPiece := if isHigh u || isLow u then .lone u else .char (Char.ofNat u)

/-- Puts a piece before a text; the two halves of a pair become one character. -/
def consPiece (p : TextPiece) (t : JsonText) : JsonText :=
  match p, t with
  | .lone hi, .lone lo :: r =>
    if isHigh hi && isLow lo then
      .char (Char.ofNat (0x10000 + (hi - 0xD800) * 0x400 + (lo - 0xDC00))) :: r
    else p :: t
  | _, _ => p :: t

/-- The inside of a string up to its closing quote, and what follows that. -/
def read? : List Char → Option (JsonText × List Char)
  | [] => none
  | '"' :: r => some ([], r)
  | '\\' :: 'u' :: a :: b :: c :: d :: r =>
    match unit? a b c d, read? r with
    | some u, some (t, rest) => some (consPiece (ofUnit u) t, rest)
    | _, _ => none
  | '\\' :: e :: r =>
    match shortEscapes.lookup e, read? r with
    | some c, some (t, rest) => some (.char c :: t, rest)
    | _, _ => none
  | c :: r =>
    if c == '\\' || c.toNat < 0x20 then none
    else (read? r).map fun p => (.char c :: p.1, p.2)

def hexDigits4 (n : Nat) : List Char :=
  [Nat.digitChar (n / 4096 % 16), Nat.digitChar (n / 256 % 16), Nat.digitChar (n / 16 % 16),
    Nat.digitChar (n % 16)]

def pieceChars : TextPiece → List Char
  | .lone u => '\\' :: 'u' :: hexDigits4 u
  | .char c =>
    match shortEscapes.find? (fun e => e.2 == c && c != '/') with
    | some e => ['\\', e.1]
    | none => if c.toNat < 0x20 then '\\' :: 'u' :: hexDigits4 c.toNat else [c]

/-- The written form, with its quotes. -/
def chars (t : JsonText) : List Char := '"' :: (t.flatMap pieceChars ++ ['"'])

/-- Reading a string leaves less than there was. -/
theorem read?_length {cs r : List Char} {t : JsonText} (h : read? cs = some (t, r)) :
    r.length < cs.length := by
  fun_induction read? cs generalizing t with
  | case1 => cases h
  | case2 s => cases h; simp
  | case3 a b c d s u t' rest ht _ ih =>
    cases h
    have := ih ht
    simp only [List.length_cons]; omega
  | case4 => cases h
  | case5 e s _ c t' rest ht _ ih =>
    cases h
    have := ih ht
    simp only [List.length_cons]; omega
  | case6 => cases h
  | case7 => cases h
  | case8 c s _ _ _ _ ih =>
    obtain ⟨p, hp, he⟩ := Option.map_eq_some_iff.1 h
    cases he
    have := ih hp
    simp only [List.length_cons]; omega

end JsonText
end DesktopHost
