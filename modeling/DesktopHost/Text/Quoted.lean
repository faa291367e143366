import DesktopHost.Text.CharClass

/-!
Quoted text for diagnostics: a string between double quotes, with short escapes for the common
controls and hexadecimal ones for every character that would not show.
-/

set_option autoImplicit false

namespace DesktopHost.Quoted

def hexDigits (n : Nat) : List Char := Nat.toDigits 16 n

/-- An escape that names the code point in lower-case hexadecimal, with no leading zeros. -/
def hexEscape (c : Char) : List Char := ['\\', 'u', '\x7b'] ++ hexDigits c.toNat ++ ['\x7d']

def escapeChar (c : Char) : List Char :=
  match c with
  | '\x00' => ['\\', '0']
  | '\t' => ['\\', 't']
  | '\r' => ['\\', 'r']
  | '\n' => ['\\', 'n']
  | '\\' => ['\\', '\\']
  | '"' => ['\\', '"']
  | c => if CharClass.isExtending c || !CharClass.isPrintable c then hexEscape c else [c]

def quoteChars (cs : List Char) : List Char := '"' :: cs.flatMap escapeChar ++ ['"']

def quote (s : String) : String := String.ofList (quoteChars s.toList)

end DesktopHost.Quoted
