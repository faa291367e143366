import DesktopHost.Problem
import DesktopHost.Url.Parse

/-!
A single health check over HTTP: a request for the address, redirections included, passes if the
last answer is a success. The server is given by what it does with one request after the other.
-/

set_option autoImplicit false

namespace DesktopHost

inductive ServerReply where
  /-- An empty answer, with the place it points to if it names one. -/
  | answer (status : Nat) (location : Option String)
  /-- The connection is closed without an answer. -/
  | closed
  | silent
  deriving DecidableEq, Repr

structure HttpServer where
  /-- The address that reaches the server, or none if nothing does. -/
  address : Option Url
  /-- The reply to each request; the last one goes on. -/
  replies : List ServerReply
  deriving DecidableEq, Repr

namespace HttpServer

def replyTo (replies : List ServerReply) (n : Nat) : ServerReply :=
  match replies[n]? with
  | some r => r
  | none => replies.getLast?.getD .silent

/-- Whether a request for `u` arrives at the server. -/
def receives (s : HttpServer) (u : Url) : Bool :=
  match s.address with
  | none => false
  | some a => u.scheme == a.scheme && u.host == a.host && u.portOrDefault == a.portOrDefault

end HttpServer

namespace HealthRequest

/-- How many requests one check may take. -/
def limit : Nat := 10

def redirects : List Nat := [301, 302, 303, 307, 308]

def isSuccess (status : Nat) : Bool := 200 ≤ status && status < 300

def requestLine (u : Url) : String := "GET " ++ u.requestTarget ++ " HTTP/1.1"

def transport (reason : String) : HealthFailure := .request reason

def unreachable : HealthFailure := transport "connection failed"

def noAnswer : HealthFailure := transport "operation timed out"

def closedEarly : HealthFailure := transport "connection closed before message completed"

def tooManyRedirects : HealthFailure := transport "too many redirects"

def unsupportedScheme : HealthFailure := transport "scheme not allowed"

def judge (status : Nat) : Except HealthFailure Unit :=
  if isSuccess status then .ok () else .error (.status status)

/-- Where an answer sends the client on to; a place that is no address sends it nowhere. -/
def redirection? (u : Url) (status : Nat) (location : Option String) : Option Url :=
  if redirects.contains status then location.bind fun l => (u.join l).toOption else none

def webSchemes : List (List Char) := [['h', 't', 't', 'p'], ['h', 't', 't', 'p', 's']]

/-- Asks for `u`, with `left` requests still allowed after this one; `asked` came before. -/
def ask (s : HttpServer) (u : Url) (asked : List String) :
    Nat → List String × Except HealthFailure Unit
  | 0 => (asked, .error tooManyRedirects)
  | left + 1 =>
    if s.receives u then
      let seen := asked ++ [requestLine u]
      match HttpServer.replyTo s.replies asked.length with
      | .closed => (seen, .error closedEarly)
      | .silent => (seen, .error noAnswer)
      | .answer status location =>
        match redirection? u status location with
        | none => (seen, judge status)
        | some next =>
          if webSchemes.contains next.scheme then ask s next seen left
          else (seen, .error unsupportedScheme)
    else (asked, .error unreachable)

/-- The requests that the server sees, and the outcome of the check. -/
def check (s : HttpServer) (u : Url) : List String × Except HealthFailure Unit := ask s u [] limit

end HealthRequest
end DesktopHost
