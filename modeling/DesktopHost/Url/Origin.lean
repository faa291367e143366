import DesktopHost.Url.Parse

/-!
Origins: which addresses a page may treat as its own. An origin without scheme, host and port
is nobody else's, not even its own at another look.
-/

set_option autoImplicit false

namespace DesktopHost

inductive UrlOrigin where
  | named (scheme : List Char) (host : UrlHost) (port : Option Nat)
  | unshared
  deriving DecidableEq, Repr

namespace Url

def ownOrigin (u : Url) : UrlOrigin :=
  match schemeKind u.scheme, u.host with
  | .web, some h => .named u.scheme h u.portOrDefault
  | _, _ => .unshared

def blobScheme : List Char := ['b', 'l', 'o', 'b']

/-- An object address has the origin of the address inside it, at most `depth` layers deep. -/
def originWithin : Nat → Url → UrlOrigin
  | 0, u => u.ownOrigin
  | depth + 1, u =>
    if u.scheme == blobScheme then
      match read (String.ofList (pathChars u.path)) with
      | .ok inner => originWithin depth inner
      | .error _ => .unshared
    else u.ownOrigin

/-- Every layer takes characters, so the length of the path bounds their number. -/
def origin (u : Url) : UrlOrigin := originWithin (pathChars u.path).length u

def sameOrigin (a b : Url) : Bool :=
  match a.origin with
  | .unshared => false
  | o => b.origin == o

end Url
end DesktopHost
