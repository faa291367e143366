import DesktopHost.Url.Domain

/-!
Reading an address from text, alone or relative to another one.
-/

set_option autoImplicit false

namespace DesktopHost.Url

def isBlankEnd (c : Char) : Bool := c.toNat ≤ 0x20

def isTabOrNewline (c : Char) : Bool := c == '\t' || c == '\n' || c == '\r'

/-- Controls and spaces at the ends do not count. -/
def trimmed (cs : List Char) : List Char :=
  ((cs.dropWhile isBlankEnd).reverse.dropWhile isBlankEnd).reverse

/-- Tabs and line ends count nowhere. -/
def joined (cs : List Char) : List Char := cs.filter (!isTabOrNewline ·)

def isSchemeChar (c : Char) : Bool := isAlpha c || isDigit c || c == '+' || c == '-' || c == '.'

/-- A leading scheme in lower case, and what follows its colon. -/
def scheme? (cs : List Char) : Option (List Char × List Char) :=
  match cs with
  | [] => none
  | c :: _ =>
    if isAlpha c then
      match cs.dropWhile isSchemeChar with
      | ':' :: rest => some ((cs.takeWhile isSchemeChar).map lower, rest)
      | _ => none
    else none

def isSlash (c : Char) : Bool := c == '/' || c == '\\'

/-- The characters that end an authority. -/
def endsAuthority (k : SchemeKind) (c : Char) : Bool :=
  c == '/' || c == '?' || c == '#' || (k.isSpecial && c == '\\')

structure Authority where
  user : List Char
  password : List Char
  host : UrlHost
  port : Option Nat

/-- What stands before and after the last `@` of a text that has one. -/
def lastAt? (cs : List Char) : Option (List Char × List Char) :=
  if cs.contains '@' then
    let after := (cs.reverse.takeWhile (· != '@')).reverse
    some ((cs.take (cs.length - after.length)).dropLast, after)
  else none

/-- User and password as they are written, and the text from the host on. -/
def userinfo? (k : SchemeKind) (cs : List Char) :
    Except UrlError (List Char × List Char × List Char) :=
  let auth := cs.takeWhile (!endsAuthority k ·)
  let rest := cs.dropWhile (!endsAuthority k ·)
  match lastAt? auth with
  | none => .ok ([], [], cs)
  | some ([], host) => if host.isEmpty && !rest.isEmpty then .error .emptyHost else .ok ([], [], host ++ rest)
  | some (info, host) =>
    let user := info.takeWhile (· != ':')
    let password := (info.dropWhile (· != ':')).drop 1
    .ok (Percent.code Percent.inUserinfo user, Percent.code Percent.inUserinfo password, host ++ rest)

/-- Cuts off a host; a colon ends it only outside square brackets. -/
def hostSpan (k : SchemeKind) (bracketed : Bool) : List Char → List Char × List Char
  | [] => ([], [])
  | c :: r =>
    if endsAuthority k c || (c == ':' && !bracketed) then ([], c :: r)
    else
      let p := hostSpan k (if c == '[' then true else if c == ']' then false else bracketed) r
      (c :: p.1, p.2)

/-- Digits up to the end of the port; other characters may not stand there. -/
def port? (scheme cs : List Char) : Except UrlError (Option Nat × List Char) :=
  let digits := cs.takeWhile isDigit
  let rest := cs.dropWhile isDigit
  let value := Numeral.inBase 10 digits
  if 65535 < value then .error .invalidPort
  else
    match rest with
    | [] => .ok (shown digits value, rest)
    | c :: _ =>
      if isSlash c || c == '?' || c == '#' then .ok (shown digits value, rest)
      else .error .invalidPort
where
  shown (digits : List Char) (value : Nat) : Option Nat :=
    if digits.isEmpty || defaultPort? scheme == some value then none else some value

def host? (k : SchemeKind) (cs : List Char) : Except UrlError UrlHost :=
  match k with
  | .free => freeHost? cs
  | _ => if cs.isEmpty then .error .emptyHost else namedHost? cs

/-- Everything between the two slashes and the path. -/
def authority? (scheme cs : List Char) : Except UrlError (Authority × List Char) := do
  let k := schemeKind scheme
  let (user, password, cs) ← userinfo? k cs
  let (name, rest) := hostSpan k false cs
  let host ← host? k name
  if host == .blank && (rest.head? == some ':' || !user.isEmpty || !password.isEmpty) then
    .error .emptyHost
  else
    match rest with
    | ':' :: digits =>
      let (port, rest) ← port? scheme digits
      .ok (⟨user, password, host, port⟩, rest)
    | _ => .ok (⟨user, password, host, none⟩, rest)

def isSingleDot (s : List Char) : Bool := s == ['.'] || s.map lower == ['%', '2', 'e']

def isDoubleDot (s : List Char) : Bool :=
  let t := s.map lower
  t == ['.', '.'] || t == ['%', '2', 'e', '.'] || t == ['.', '%', '2', 'e'] ||
    t == ['%', '2', 'e', '%', '2', 'e']

def isDriveLetter (s : List Char) : Bool :=
  match s with
  | [c, d] => isAlpha c && (d == ':' || d == '|')
  | _ => false

/-- A part that names a drive is a drive letter, at the end or before a backslash. -/
def namesDrive (s : List Char) : Bool :=
  isDriveLetter (s.take 2) && (s.length = 2 || (s.drop 2).head? == some '\\')

/-- Goes one part up; a part that names a drive is never left. -/
def shorten (path : List (List Char)) : List (List Char) :=
  if path.getLast?.any namesDrive then path else path.dropLast

/-- A drive letter that a tab or line end cuts off from the text behind it. -/
def brokenDrive? (s : List Char) : Option (List Char × List Char) :=
  match s.dropWhile isTabOrNewline with
  | [] => none
  | c :: r =>
    match r.dropWhile isTabOrNewline with
    | ':' :: t :: rest =>
      if isAlpha c && isTabOrNewline t && !(joined rest).isEmpty then some ([c, ':'], joined rest)
      else none
    | _ => none

/-- The parts of a path as far as it is read, and whether it was found to begin with a drive. -/
structure Trail where
  parts : List (List Char)
  onDrive : Bool

namespace Trail

def new (parts : List (List Char)) : Trail := ⟨parts, false⟩

def push (t : Trail) (s : List Char) : Trail :=
  { t with parts := t.parts ++ [Percent.code Percent.inPath s] }

/-- A part at the front of a file path; drives are told from other parts there only. -/
def first (t : Trail) (s : List Char) : Trail :=
  match brokenDrive? s with
  | some (drive, rest) => (t.push drive).push rest
  | none =>
    let s := joined s
    if isDriveLetter s then ⟨t.parts ++ [s.take 1 ++ [':']], true⟩ else t.push s

/-- Adds the parts of a written path, resolving dots; a final dot leaves an empty part. -/
def add (k : SchemeKind) (t : Trail) : List (List Char) → Trail
  | [] => t
  | s :: rest =>
    let final (u : Trail) : Trail := if rest.isEmpty then u.push [] else u
    if isDoubleDot (joined s) then add k (final { t with parts := shorten t.parts }) rest
    else if isSingleDot (joined s) then add k (final t) rest
    else if k == .file && t.parts.isEmpty then add k (t.first s) rest
    else add k (t.push (joined s)) rest

end Trail

/-- Cuts a path at its slashes; special schemes take the backslash for one. -/
def cutPath (k : SchemeKind) (cs : List Char) : List (List Char) :=
  splitOn '/' (if k.isSpecial then cs.map (fun c => if c == '\\' then '/' else c) else cs)

def isPathChar (c : Char) : Bool := c != '?' && c != '#'

/-- Goes on from `path` through the text up to the query or fragment. -/
def follow (k : SchemeKind) (path : List (List Char)) (cs : List Char) : Trail :=
  (Trail.new path).add k (cutPath k (cs.takeWhile isPathChar))

def extendPath (k : SchemeKind) (path : List (List Char)) (cs : List Char) : List (List Char) :=
  (follow k path cs).parts

/-- The path after an authority, which may be empty for a free scheme only. -/
def pathAfterHost (k : SchemeKind) (cs : List Char) : List (List Char) :=
  match cs with
  | [] => if k.isSpecial then [[]] else []
  | c :: r =>
    if c == '/' || (k.isSpecial && c == '\\') then extendPath k [] r
    else if !isPathChar c && !k.isSpecial then []
    else extendPath k [] cs

structure Tail where
  query : Option (List Char)
  fragment : Option (List Char)

/-- Query and fragment, from the first `?` or `#` on. -/
def tail (k : SchemeKind) (cs : List Char) : Tail :=
  match cs.dropWhile isPathChar with
  | '?' :: rest =>
    let set := if k.isSpecial then Percent.inSpecialQuery else Percent.inQuery
    let query := some (Percent.code set (rest.takeWhile (· != '#')))
    match rest.dropWhile (· != '#') with
    | _ :: f => ⟨query, some (Percent.code Percent.inFragment f)⟩
    | [] => ⟨query, none⟩
  | '#' :: f => ⟨none, some (Percent.code Percent.inFragment f)⟩
  | _ => ⟨none, none⟩

/-- After `//`: an authority, then a path. -/
def afterSlashes (scheme cs : List Char) : Except UrlError Url := do
  let k := schemeKind scheme
  let (a, rest) ← authority? scheme cs
  let t := tail k rest
  .ok ⟨scheme, a.user, a.password, some a.host, a.port, .parts (pathAfterHost k rest), t.query,
    t.fragment⟩

def trimLeadingBlank : List (List Char) → List (List Char)
  | [] :: s :: rest => trimLeadingBlank (s :: rest)
  | path => path

/-- The text behind a slash at the front, tabs and line ends aside. -/
def afterSlash? (cs : List Char) : Option (List Char) :=
  match cs.dropWhile isTabOrNewline with
  | [] => none
  | c :: r => if isSlash c then some r else none

/-- Behind one slash, or none, stands a path. -/
def localFile (cs : List Char) : UrlHost × Trail :=
  (.blank, follow .file [] ((afterSlash? cs).getD cs))

/-- Behind two slashes: a host, if it is no drive and not this machine, and a path. The slash
before the path is a part of it where no host is kept; a path on a drive has no host. -/
def hostedFile (cs : List Char) : Except UrlError (UrlHost × Trail) := do
  let place := cs.takeWhile fun c => isPathChar c && !isSlash c
  let rest := cs.drop place.length
  let name := joined place
  if isDriveLetter name then return (.blank, follow .file [] cs)
  if name.isEmpty then return (.blank, follow .file [] rest)
  let host ← namedHost? name
  if host == .domain "localhost".toList then return (.blank, follow .file [] rest)
  let path := follow .file [] ((afterSlash? rest).getD rest)
  return (if path.onDrive then .blank else host, path)

/-- A file address. Tabs and line ends still stand in `cs`: one can cut off a drive letter. -/
def fileUrl (cs : List Char) : Except UrlError Url := do
  let (host, path) ←
    match (afterSlash? cs).bind afterSlash? with
    | some rest => hostedFile rest
    | none => pure (localFile cs)
  let t := tail .file (joined cs)
  return ⟨fileScheme, [], [], some host, none, .parts (trimLeadingBlank path.parts), t.query,
    t.fragment⟩

/-- An address of a free scheme that does not start with two slashes. -/
def withoutHost (scheme cs : List Char) : Url :=
  let t := tail .free cs
  let path : UrlPath :=
    match cs with
    | '/' :: rest => .parts (extendPath .free [] rest)
    | _ => .whole (Percent.code Percent.isControl (cs.takeWhile isPathChar))
  ⟨scheme, [], [], none, none, path, t.query, t.fragment⟩

/-- Text without a scheme, read from where `base` stands. -/
def relative (base : Url) (cs : List Char) : Except UrlError Url :=
  let k := schemeKind base.scheme
  let t := tail k cs
  match base.path with
  | .whole _ =>
    if cs.head? == some '#' then .ok { base with fragment := t.fragment }
    else .error .relativeToOpaque
  | .parts segments =>
    match cs with
    | [] => .ok { base with fragment := none }
    | '#' :: _ => .ok { base with fragment := t.fragment }
    | '?' :: _ => .ok { base with query := t.query, fragment := t.fragment }
    | c :: rest =>
      if isSlash c then
        match rest with
        | d :: rest' =>
          if isSlash d then
            afterSlashes base.scheme (if c == '/' && d == '/' then rest' else cs.dropWhile isSlash)
          else .ok { base with path := .parts (extendPath k [] rest), query := t.query, fragment := t.fragment }
        | [] => .ok { base with path := .parts (extendPath k [] rest), query := t.query, fragment := t.fragment }
      else
        .ok { base with
          path := .parts (extendPath k segments.dropLast cs), query := t.query, fragment := t.fragment }

/-- Reads `input`, from where `base` stands if it has no scheme of its own. -/
def parse (base : Option Url) (input : String) : Except UrlError Url :=
  let written := trimmed input.toList
  let cs := joined written
  match scheme? cs with
  | none =>
    match base with
    | some b => relative b cs
    | none => .error .relativeWithoutBase
  | some (scheme, rest) =>
    match schemeKind scheme with
    | .file => fileUrl ((written.dropWhile (· != ':')).drop 1)
    | .free =>
      match rest with
      | '/' :: '/' :: cs => afterSlashes scheme cs
      | _ => .ok (withoutHost scheme rest)
    | .web =>
      let slashes := rest.takeWhile isSlash
      match base with
      | some b =>
        if slashes.length < 2 && b.scheme == scheme then relative b rest
        else afterSlashes scheme (rest.dropWhile isSlash)
      | none => afterSlashes scheme (rest.dropWhile isSlash)

def read (input : String) : Except UrlError Url := parse none input

def join (base : Url) (input : String) : Except UrlError Url := parse (some base) input

end DesktopHost.Url
