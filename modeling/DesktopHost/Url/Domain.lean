import DesktopHost.Url.Basic
import DesktopHost.Url.Name
import DesktopHost.Url.Percent

/-!
Hosts in addresses: dotted and bracketed numbers, names to be looked up, and names that are kept as
they are written.
-/

set_option autoImplicit false

namespace DesktopHost.Url

/-- A number in octal, decimal or hexadecimal, told apart by its first characters. -/
def number? (cs : List Char) : Option Nat :=
  match cs with
  | [] => none
  | '0' :: 'x' :: ds => if ds.all (Numeral.hexDigit? · |>.isSome) then some (Numeral.inBase 16 ds) else none
  | '0' :: 'X' :: ds => if ds.all (Numeral.hexDigit? · |>.isSome) then some (Numeral.inBase 16 ds) else none
  | '0' :: d :: ds => if (d :: ds).all isOctal then some (Numeral.inBase 8 (d :: ds)) else none
  | ds => if ds.all isDigit then some (Numeral.inBase 10 ds) else none

/-- The last part of a name that does not count a final dot; `none` if nothing is left. -/
def lastLabel? (cs : List Char) : Option (List Char) :=
  match (splitOn '.' cs).reverse with
  | [] :: rest => rest.head?
  | last :: _ => some last
  | [] => none

def endsInNumber (cs : List Char) : Bool :=
  match lastLabel? cs with
  | none => false
  | some last => (!last.isEmpty && last.all isDigit) || (number? last).isSome

/-- All numbers but the last fill one byte each; the last fills what remains. -/
def ipv4Value? (numbers : List Nat) : Option Nat :=
  match numbers.reverse with
  | [] => none
  | last :: front =>
    let k := front.length
    if 4 ≤ k || Nat.pow 256 (4 - k) ≤ last || front.any (255 < ·) then none
    else some (front.reverse.foldl (fun a n => a * 256 + n) 0 * Nat.pow 256 (4 - k) + last)

def ipv4? (cs : List Char) : Option Nat :=
  let parts := splitOn '.' cs
  let parts := if parts.getLast? == some [] then parts.dropLast else parts
  match parts.mapM number? with
  | some ns => ipv4Value? ns
  | none => none

/-- The four decimal bytes at the end of a bracketed address, without leading zeros. -/
def dottedTail? (cs : List Char) : Option (List Nat) :=
  let parts := splitOn '.' cs
  if parts.length = 4 && parts.all (fun p =>
      !p.isEmpty && p.all isDigit && (p.length = 1 || p.head? != some '0') && Numeral.inBase 10 p ≤ 255) then
    match parts.map (Numeral.inBase 10) with
    | [a, b, c, d] => some [a * 256 + b, c * 256 + d]
    | _ => none
  else none

/-- The pieces of a run without a double colon; the last may be dotted where `tail` allows it. -/
def pieces? (tail : Bool) : List (List Char) → Option (List Nat)
  | [] => some []
  | [p] =>
    if tail && p.contains '.' then dottedTail? p
    else if !p.isEmpty && p.length ≤ 4 && p.all (Numeral.hexDigit? · |>.isSome) then some [Numeral.inBase 16 p]
    else none
  | p :: rest =>
    if !p.isEmpty && p.length ≤ 4 && p.all (Numeral.hexDigit? · |>.isSome) then
      (pieces? tail rest).map (Numeral.inBase 16 p :: ·)
    else none

def run? (tail : Bool) (cs : List Char) : Option (List Nat) :=
  if cs.isEmpty then some [] else pieces? tail (splitOn ':' cs)

/-- Splits at the first double colon. -/
def doubleColon? : List Char → Option (List Char × List Char)
  | ':' :: ':' :: rest => some ([], rest)
  | c :: rest => (doubleColon? rest).map fun p => (c :: p.1, p.2)
  | [] => none

/-- Eight pieces of sixteen bits; one double colon stands for at least one piece of zeros. -/
def ipv6? (cs : List Char) : Option (List Nat) :=
  match doubleColon? cs with
  | none =>
    match run? true cs with
    | some ps => if ps.length = 8 then some ps else none
    | none => none
  | some (front, back) =>
    match run? false front, run? true back with
    | some a, some b =>
      if a.length + b.length ≤ 7 then
        some (a ++ List.replicate (8 - a.length - b.length) 0 ++ b)
      else none
    | _, _ => none

/-- A name to be looked up, in plain characters. -/
def domain? (cs : List Char) : Except UrlError (List Char) :=
  match Name.plain? (Utf8.lossyChars (Percent.decode (Utf8.encodeChars cs))) with
  | none => .error .invalidInternationalName
  | some [] => .error .emptyHost
  | some name => .ok name

def bracketed? (cs : List Char) : Except UrlError UrlHost :=
  if cs.getLast? == some ']' then
    match ipv6? cs.dropLast with
    | some ps => .ok (.ipv6 ps)
    | none => .error .invalidIpv6
  else .error .invalidIpv6

/-- The host of a scheme whose hosts are looked up. -/
def namedHost? (cs : List Char) : Except UrlError UrlHost :=
  match cs with
  | '[' :: rest => bracketed? rest
  | _ =>
    match domain? cs with
    | .error e => .error e
    | .ok name =>
      if endsInNumber name then
        match ipv4? name with
        | some n => .ok (.ipv4 n)
        | none => .error .invalidIpv4
      else .ok (.domain name)

/-- The host of any other scheme, which is kept as it is written. -/
def freeHost? (cs : List Char) : Except UrlError UrlHost :=
  match cs with
  | '[' :: rest => bracketed? rest
  | [] => .ok .blank
  | _ =>
    if cs.any forbiddenInHost then .error .invalidDomainCharacter
    else .ok (.domain (Percent.code Percent.isControl cs))

end DesktopHost.Url
