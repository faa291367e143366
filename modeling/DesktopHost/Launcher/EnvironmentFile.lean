import DesktopHost.Backend.Launch

/-!
The file of variables beside the program: lines `NAME=value` with comments, quotes, escapes and
references to other variables. A variable that the environment has already is left alone, and the
first faulty line ends the reading.
-/

set_option autoImplicit false

namespace DesktopHost.EnvironmentFile

/-- Blanks of every kind, line ends included. -/
def isWhite (c : Char) : Bool :=
  let n := c.toNat
  (0x09 ≤ n && n ≤ 0x0D) || (0x2000 ≤ n && n ≤ 0x200A) ||
    [0x20, 0x85, 0xA0, 0x1680, 0x2028, 0x2029, 0x202F, 0x205F, 0x3000].contains n

def trimStart (cs : List Char) : List Char := cs.dropWhile isWhite

def trimEnd (cs : List Char) : List Char := (cs.reverse.dropWhile isWhite).reverse

/-- Where a line stands between its characters. -/
inductive LineState where
  | complete | blank | escape | weak | weakEscape | strong | strongEscape
  /-- A comment began this many characters into the line. -/
  | comment (start : Nat)
  deriving DecidableEq, Repr

namespace LineState

/-- The state outside quotes after a character that ends no blank. -/
def afterPlain : Char → LineState
  | '\\' => .escape
  | '"' => .weak
  | '\'' => .strong
  | _ => .complete

def next (offset : Nat) : LineState → Char → LineState
  | .blank, '#' => .comment offset
  | .blank, c => afterPlain c
  | .escape, _ => .complete
  | .complete, c =>
    if isWhite c && c != '\n' && c != '\r' then .blank else afterPlain c
  | .weak, c => if c == '\\' then .weakEscape else if c == '"' then .complete else .weak
  | .weakEscape, _ => .weak
  | .strong, c => if c == '\\' then .strongEscape else if c == '\'' then .complete else .strong
  | .strongEscape, _ => .strong
  | .comment start, _ => .comment start

/-- The state at the end of a line. -/
def atEnd (s : LineState) (offset : Nat) : List Char → LineState
  | [] => s
  | c :: r => atEnd (s.next offset c) (offset + 1) r

end LineState

/-- Cuts after every line feed. -/
def rawLines : List Char → List (List Char)
  | [] => []
  | c :: r =>
    if c == '\n' then [c] :: rawLines r
    else
      match rawLines r with
      | [] => [[c]]
      | line :: more => (c :: line) :: more

def dropLineEnd (cs : List Char) : List Char :=
  if cs.getLast? == some '\n' then
    let cs := cs.dropLast
    if cs.getLast? == some '\r' then cs.dropLast else cs
  else cs

/-- Joins raw lines to records; a quote that is open, or an escape, goes on in the next line. The
record is `none` where the text ends too early. -/
def records (held : List Char) (s : LineState) : List (List Char) → List (Option (List Char))
  | [] => if s = .complete then [] else [none]
  | line :: rest =>
    let all := held ++ line
    if (trimStart all).head? == some '#' then some [] :: records [] .complete rest
    else
      match s.atEnd 0 line with
      | .complete => some (dropLineEnd all) :: records [] .complete rest
      | .comment start => some (held ++ line.take start) :: records [] .complete rest
      | s => records all s rest

inductive Quotes where
  | none | weak | strong
  deriving DecidableEq, Repr

/-- The reader of a value; `name` is a reference that has begun, in braces or not. -/
structure ValueReader where
  output : List Char
  quotes : Quotes
  escaped : Bool
  ended : Bool
  name : Option (Bool × List Char)
  deriving DecidableEq, Repr

inductive ValueStep where
  | go (v : ValueReader)
  | stop (v : ValueReader)
  | fail

namespace ValueReader

def new : ValueReader := ⟨[], .none, false, false, none⟩

def push (v : ValueReader) (c : Char) : ValueReader := { v with output := v.output ++ [c] }

def refer (look : String → String) (v : ValueReader) (name : List Char) : ValueReader :=
  { v with output := v.output ++ (look (String.ofList name)).toList, name := none }

def escape (v : ValueReader) (c : Char) : ValueStep :=
  if ['\\', '\'', '"', '$', ' '].contains c then .go ({ v with escaped := false }.push c)
  else if c == 'n' then .go ({ v with escaped := false }.push '\n')
  else .fail

/-- A character while a reference is read; without braces it ends before the first character that
is neither a letter nor a digit of any script. -/
def inName (look : String → String) (v : ValueReader) (braced : Bool) (name : List Char)
    (c : Char) : ValueReader :=
  if CharClass.isAlphanumeric c then { v with name := some (braced, name ++ [c]) }
  else if braced then
    if c == '\x7d' then v.refer look name else { v with name := some (true, name ++ [c]) }
  else if c == '\x7b' && name.isEmpty then { v with name := some (true, []) }
  else if c == '$' then { v.refer look name with name := some (false, []) }
  else (v.refer look name).push c

def plain (v : ValueReader) (c : Char) : ValueReader :=
  if c == '$' then { v with name := some (false, []) }
  else if v.quotes = .weak then
    if c == '"' then { v with quotes := .none }
    else if c == '\\' then { v with escaped := true }
    else v.push c
  else if c == '\'' then { v with quotes := .strong }
  else if c == '"' then { v with quotes := .weak }
  else if c == '\\' then { v with escaped := true }
  else if c == ' ' || c == '\t' then { v with ended := true }
  else v.push c

def step (look : String → String) (v : ValueReader) (c : Char) : ValueStep :=
  if v.ended then
    if c == ' ' || c == '\t' then .go v else if c == '#' then .stop v else .fail
  else if v.escaped then v.escape c
  else if v.quotes = .strong then
    .go (if c == '\'' then { v with quotes := .none } else v.push c)
  else
    match v.name with
    | some (braced, name) => .go (v.inName look braced name c)
    | none => .go (v.plain c)

/-- What was read, if nothing is left open. -/
def finish (look : String → String) (v : ValueReader) : Option (List Char) :=
  if v.quotes = .none then
    match v.name with
    | some (true, _) => none
    | some (false, name) => some (v.refer look name).output
    | none => some v.output
  else none

def read (look : String → String) (v : ValueReader) : List Char → Option (List Char)
  | [] => v.finish look
  | c :: r =>
    match v.step look c with
    | .go v => read look v r
    | .stop v => v.finish look
    | .fail => none

end ValueReader

def isKeyStart (c : Char) : Bool := c.isAlpha || c == '_'

def isKeyChar (c : Char) : Bool := c.isAlphanum || c == '_' || c == '.'

def key? (cs : List Char) : Option (List Char × List Char) :=
  match cs with
  | [] => none
  | c :: _ =>
    if isKeyStart c then some (cs.takeWhile isKeyChar, trimStart (cs.dropWhile isKeyChar))
    else none

def afterEquals? : List Char → Option (List Char)
  | '=' :: r => some (trimStart r)
  | _ => none

def exportWord : List Char := ['e', 'x', 'p', 'o', 'r', 't']

/-- The key of a record, and its value from the first character on. -/
def assignment? (cs : List Char) : Option (List Char × List Char) := do
  let (key, rest) ← key? cs
  match afterEquals? rest with
  | some value => return (key, value)
  | none =>
    if key = exportWord then
      let (key, rest) ← key? rest
      return (key, ← afterEquals? rest)
    else none

/-- What a record sets; nothing if it is empty or a comment, and `none` if it is faulty. Blanks at
either end do not count. -/
def record? (look : String → String) (cs : List Char) : Option (Option (String × String)) :=
  let cs := trimStart (trimEnd cs)
  if cs.isEmpty || cs.head? == some '#' then some none
  else do
    let (key, value) ← assignment? cs
    if value.isEmpty || value.head? == some '#' then return some (String.ofList key, "")
    let value ← ValueReader.new.read look value
    return some (String.ofList key, String.ofList value)

/-- Sets a variable unless it is set to some text already. -/
def set (env : Environment) (name value : String) : Environment :=
  match env.text? name with
  | some _ => env
  | none => (name, Utf8.encode value) :: env

def loadRecords (env : Environment) : List (Option (List Char)) → Environment
  | [] => env
  | none :: _ => env
  | some cs :: rest =>
    match record? (fun name => (env.text? name).getD "") cs with
    | none => env
    | some none => loadRecords env rest
    | some (some (name, value)) => loadRecords (set env name value) rest

/-- The environment with the variables of a file added. -/
def load (env : Environment) (text : String) : Environment :=
  let cs := text.toList
  let cs := if cs.head? == some '\ufeff' then cs.drop 1 else cs
  loadRecords env (records [] .complete (rawLines cs))

end DesktopHost.EnvironmentFile
