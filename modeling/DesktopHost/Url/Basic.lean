/-!
Web addresses: their parts, why a text is not one, and how one is written.
-/

set_option autoImplicit false

namespace DesktopHost

inductive UrlError where
  | relativeWithoutBase
  | relativeToOpaque
  | emptyHost
  | invalidPort
  | invalidIpv4
  | invalidIpv6
  | invalidInternationalName
  | invalidDomainCharacter
  deriving DecidableEq, Repr

def UrlError.message : UrlError → String
  | .relativeWithoutBase => "relative URL without a base"
  | .relativeToOpaque => "relative URL with a cannot-be-a-base base"
  | .emptyHost => "empty host"
  | .invalidPort => "invalid port number"
  | .invalidIpv4 => "invalid IPv4 address"
  | .invalidIpv6 => "invalid IPv6 address"
  | .invalidInternationalName => "invalid international domain name"
  | .invalidDomainCharacter => "invalid domain character"

inductive UrlHost where
  /-- No name between the slashes. -/
  | blank
  | domain (name : List Char)
  | ipv4 (address : Nat)
  | ipv6 (pieces : List Nat)
  deriving DecidableEq, Repr

/-- A path of parts, or one undivided text for schemes without an authority or a leading slash. -/
inductive UrlPath where
  | parts (segments : List (List Char))
  | whole (text : List Char)
  deriving DecidableEq, Repr

structure Url where
  scheme : List Char
  user : List Char
  password : List Char
  /-- `none` if the address has no authority at all. -/
  host : Option UrlHost
  /-- Only a port that is not the scheme's own. -/
  port : Option Nat
  path : UrlPath
  query : Option (List Char)
  fragment : Option (List Char)
  deriving DecidableEq, Repr

namespace Url

/-- Schemes whose addresses all have the same shape; files have a few rules more. -/
inductive SchemeKind where
  | file | web | free
  deriving DecidableEq, Repr

def webSchemes : List (List Char × Nat) := [
  (['h', 't', 't', 'p'], 80),
  (['h', 't', 't', 'p', 's'], 443),
  (['w', 's'], 80),
  (['w', 's', 's'], 443),
  (['f', 't', 'p'], 21)]

def fileScheme : List Char := ['f', 'i', 'l', 'e']

def schemeKind (scheme : List Char) : SchemeKind :=
  if scheme == fileScheme then .file
  else if webSchemes.any (·.1 == scheme) then .web
  else .free

def SchemeKind.isSpecial : SchemeKind → Bool
  | .free => false
  | _ => true

def defaultPort? (scheme : List Char) : Option Nat :=
  (webSchemes.find? (·.1 == scheme)).map (·.2)

def decimalChars (n : Nat) : List Char := Nat.toDigits 10 n

def ipv4Chars (n : Nat) : List Char :=
  decimalChars (n / 16777216 % 256) ++ '.' :: decimalChars (n / 65536 % 256) ++
    '.' :: decimalChars (n / 256 % 256) ++ '.' :: decimalChars (n % 256)

/-- Length of the run of zeros at the front. -/
def zeroRun (pieces : List Nat) : Nat := (pieces.takeWhile (· == 0)).length

/-- The longest run of at least two zeros, the first of equals, as start and length. -/
def longestZeros (pieces : List Nat) (start : Nat) (best : Option (Nat × Nat)) :
    Option (Nat × Nat) :=
  match pieces with
  | [] => best
  | p :: rest =>
    let n := zeroRun (p :: rest)
    let best' := if n ≥ 2 && best.all (·.2 < n) then some (start, n) else best
    longestZeros rest (start + 1) best'

def colonJoined (pieces : List Nat) : List Char :=
  List.intercalate [':'] (pieces.map (Nat.toDigits 16))

def ipv6Chars (pieces : List Nat) : List Char :=
  match longestZeros pieces 0 none with
  | none => colonJoined pieces
  | some (start, n) =>
    colonJoined (pieces.take start) ++ [':', ':'] ++ colonJoined (pieces.drop (start + n))

def hostChars : UrlHost → List Char
  | .blank => []
  | .domain name => name
  | .ipv4 address => ipv4Chars address
  | .ipv6 pieces => '[' :: ipv6Chars pieces ++ [']']

def pathChars : UrlPath → List Char
  | .parts segments => segments.flatMap ('/' :: ·)
  | .whole text => text

def credentialChars (u : Url) : List Char :=
  if u.user.isEmpty && u.password.isEmpty then []
  else u.user ++ (if u.password.isEmpty then [] else ':' :: u.password) ++ ['@']

/-- Keeps a path that begins with an empty part from reading as an authority. -/
def pathGuard (u : Url) : List Char :=
  match u.path with
  | .parts ([] :: _ :: _) => ['/', '.']
  | _ => []

def authorityChars (u : Url) : List Char :=
  match u.host with
  | none => u.pathGuard
  | some h =>
    ['/', '/'] ++ u.credentialChars ++ hostChars h ++
      (match u.port with | some p => ':' :: decimalChars p | none => [])

def queryChars (u : Url) : List Char :=
  match u.query with | some q => '?' :: q | none => []

def fragmentChars (u : Url) : List Char :=
  match u.fragment with | some f => '#' :: f | none => []

def chars (u : Url) : List Char :=
  u.scheme ++ ':' :: u.authorityChars ++ pathChars u.path ++ u.queryChars ++ u.fragmentChars

/-- The address as it is written out. -/
def text (u : Url) : String := String.ofList u.chars

/-- What a request for the address asks for: the path and the query. -/
def requestTarget (u : Url) : String := String.ofList (pathChars u.path ++ u.queryChars)

def portOrDefault (u : Url) : Option Nat := u.port <|> defaultPort? u.scheme

end Url
end DesktopHost
