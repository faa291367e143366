/-!
Bytes and the text they stand for. `scan` cuts a byte string into characters and maximal
ill-formed parts; lossy and strict decoding are two readings of that one scan.
-/

set_option autoImplicit false

namespace DesktopHost

abbrev Bytes := List UInt8

namespace Utf8

/-- Stands for one maximal ill-formed part of a byte string. -/
def replacement : Char := '\ufffd'

/-- What the first byte of a sequence promises; the bounds are those of the second byte. -/
inductive Lead where
  | single
  | pair
  | triple (lo hi : UInt8)
  | quad (lo hi : UInt8)
  | stray
  deriving DecidableEq, Repr

def lead (b : UInt8) : Lead :=
  if b < 0x80 then .single
  else if b < 0xC2 then .stray
  else if b < 0xE0 then .pair
  else if b = 0xE0 then .triple 0xA0 0xBF
  else if b = 0xED then .triple 0x80 0x9F
  else if b < 0xF0 then .triple 0x80 0xBF
  else if b = 0xF0 then .quad 0x90 0xBF
  else if b < 0xF4 then .quad 0x80 0xBF
  else if b = 0xF4 then .quad 0x80 0x8F
  else .stray

def isTail (b : UInt8) : Bool := 0x80 ≤ b && b ≤ 0xBF

def within (lo hi b : UInt8) : Bool := lo ≤ b && b ≤ hi

/-- The six payload bits of a tail byte. -/
def low6 (b : UInt8) : Nat := b.toNat % 64

def join2 (a b : UInt8) : Char := Char.ofNat (a.toNat % 32 * 64 + low6 b)

def join3 (a b c : UInt8) : Char := Char.ofNat (a.toNat % 16 * 4096 + low6 b * 64 + low6 c)

def join4 (a b c d : UInt8) : Char :=
  Char.ofNat (a.toNat % 8 * 262144 + low6 b * 4096 + low6 c * 64 + low6 d)

/-- Reads characters from the front; each maximal ill-formed part gives one `none`. -/
def scan : Bytes → List (Option Char)
  | [] => []
  | a :: r =>
    match lead a with
    | .single => some (Char.ofNat a.toNat) :: scan r
    | .stray => none :: scan r
    | .pair =>
      match r with
      | [] => [none]
      | b :: r₁ => if isTail b then some (join2 a b) :: scan r₁ else none :: scan (b :: r₁)
    | .triple lo hi =>
      match r with
      | [] => [none]
      | b :: r₁ =>
        if within lo hi b then
          match r₁ with
          | [] => [none]
          | c :: r₂ => if isTail c then some (join3 a b c) :: scan r₂ else none :: scan (c :: r₂)
        else none :: scan (b :: r₁)
    | .quad lo hi =>
      match r with
      | [] => [none]
      | b :: r₁ =>
        if within lo hi b then
          match r₁ with
          | [] => [none]
          | c :: r₂ =>
            if isTail c then
              match r₂ with
              | [] => [none]
              | d :: r₃ =>
                if isTail d then some (join4 a b c d) :: scan r₃ else none :: scan (d :: r₃)
            else none :: scan (c :: r₂)
        else none :: scan (b :: r₁)

/-- Decodes any bytes, one replacement character per maximal ill-formed part. -/
def lossyChars (bs : Bytes) : List Char := (scan bs).map (·.getD replacement)

def lossy (bs : Bytes) : String := String.ofList (lossyChars bs)

/-- Decodes only well-formed bytes. -/
def decode? (bs : Bytes) : Option String :=
  if (scan bs).all Option.isSome then some (lossy bs) else none

/-- The bytes of one character. -/
def encodeChar (c : Char) : Bytes :=
  let n := c.toNat
  if n < 0x80 then [.ofNat n]
  else if n < 0x800 then [.ofNat (0xC0 + n / 64), .ofNat (0x80 + n % 64)]
  else if n < 0x10000 then
    [.ofNat (0xE0 + n / 4096), .ofNat (0x80 + n / 64 % 64), .ofNat (0x80 + n % 64)]
  else
    [.ofNat (0xF0 + n / 262144), .ofNat (0x80 + n / 4096 % 64), .ofNat (0x80 + n / 64 % 64),
      .ofNat (0x80 + n % 64)]

def encodeChars (cs : List Char) : Bytes := cs.flatMap encodeChar

def encode (s : String) : Bytes := encodeChars s.toList

@[simp] theorem scan_nil : scan [] = [] := rfl

end Utf8
end DesktopHost
