import DesktopHost.Text.Utf8

/-!
Percent coding of the parts of a web address. Each part has its own set of characters that are
not written as themselves; everything outside printable ASCII is always coded.
-/

set_option autoImplicit false

namespace DesktopHost.Url.Percent

/-- Controls and everything beyond ASCII, in every part of an address. -/
def isControl (c : Char) : Bool := c.toNat < 0x20 || 0x7E < c.toNat

def inFragment (c : Char) : Bool := isControl c || [' ', '"', '<', '>', '`'].contains c

def inQuery (c : Char) : Bool := isControl c || [' ', '"', '#', '<', '>'].contains c

/-- Schemes with a fixed grammar code the single quote in queries too. -/
def inSpecialQuery (c : Char) : Bool := inQuery c || c == '\''

def inPath (c : Char) : Bool := inFragment c || ['#', '?', '\x7b', '\x7d'].contains c

def inUserinfo (c : Char) : Bool :=
  inPath c || ['/', ':', ';', '=', '@', '[', '\\', ']', '^', '|'].contains c

def upperHex (n : Nat) : Char := (Nat.digitChar n).toUpper

def codeByte (b : UInt8) : List Char := ['%', upperHex (b.toNat / 16), upperHex (b.toNat % 16)]

/-- Codes the characters of `set`, byte by byte, and copies the others. -/
def code (set : Char → Bool) (cs : List Char) : List Char :=
  cs.flatMap fun c => if set c then (Utf8.encodeChar c).flatMap codeByte else [c]

def hexValue? (b : UInt8) : Option Nat :=
  let n := b.toNat
  if 0x30 ≤ n && n ≤ 0x39 then some (n - 0x30)
  else if 0x41 ≤ n && n ≤ 0x46 then some (n - 0x41 + 10)
  else if 0x61 ≤ n && n ≤ 0x66 then some (n - 0x61 + 10)
  else none

def percent : UInt8 := 0x25

/-- Replaces each percent sign followed by two hexadecimal digits by the byte they name. -/
def decode : Bytes → Bytes
  | [] => []
  | b :: r =>
    match r with
    | h :: l :: rest =>
      if b = percent then
        match hexValue? h, hexValue? l with
        | some x, some y => .ofNat (x * 16 + y) :: decode rest
        | _, _ => b :: decode (h :: l :: rest)
      else b :: decode (h :: l :: rest)
    | [x] => b :: decode [x]
    | [] => [b]

theorem code_eq_self (set : Char → Bool) (cs : List Char) (h : ∀ c ∈ cs, set c = false) :
    code set cs = cs := by
  induction cs with
  | nil => rfl
  | cons c r ih =>
    have hc := h c List.mem_cons_self
    have hr := ih fun x hx => h x (List.mem_cons_of_mem _ hx)
    simp only [code, List.flatMap_cons, hc] at hr ⊢
    simp [hr]

end DesktopHost.Url.Percent
