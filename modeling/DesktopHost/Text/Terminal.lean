/-!
Text for terminals. An escape sequence changes how the text after it looks; the plain form of a
text keeps what a terminal would print, without such sequences and without controls.
-/

set_option autoImplicit false

namespace DesktopHost.Terminal

def escape : Char := '\x1b'

/-- Where a sequence stands between its characters. -/
inductive State where
  | ground
  | escaped
  /-- Behind an escape and a character that calls for another. -/
  | pending
  /-- In a control sequence, which ends with a letter or a sign like one. -/
  | control
  /-- In a string for the terminal itself; the bell ends some of them. -/
  | string (bell : Bool)
  deriving DecidableEq, Repr

/-- Cancels a sequence wherever it stands. -/
def isCancel (c : Char) : Bool := c == '\x18' || c == '\x1a'

def isFinal (c : Char) : Bool := '\x40' ≤ c && c ≤ '\x7e'

def isBlank (c : Char) : Bool := ['\t', '\n', '\x0c', '\r'].contains c

namespace State

/-- The state after the character behind an escape. -/
def opened (c : Char) : State :=
  if c == '[' then .control
  else if c == ']' then .string true
  else if ['P', 'X', '^', '_'].contains c then .string false
  else if ' ' ≤ c && c ≤ '/' then .pending
  else if '0' ≤ c && c ≤ '~' then .ground
  else .escaped

def next (s : State) (c : Char) : State :=
  if c == escape then .escaped
  else if isCancel c then .ground
  else
    match s with
    | .ground => .ground
    | .escaped => if isBlank c then .ground else opened c
    | .pending => if isBlank c || ('0' ≤ c && c ≤ '~') then .ground else .pending
    | .control => if isBlank c || isFinal c then .ground else .control
    | .string bell => if bell && c == '\x07' then .ground else .string bell

/-- Whether a character is printed. Blanks cut a sequence short, but not a string. -/
def prints (s : State) (c : Char) : Bool :=
  match s with
  | .ground => isBlank c || (' ' ≤ c && c != '\x7f')
  | .string _ => false
  | _ => isBlank c

end State

def plainFrom (s : State) : List Char → List Char
  | [] => []
  | c :: r => if s.prints c then c :: plainFrom (s.next c) r else plainFrom (s.next c) r

def plain (text : String) : String := String.ofList (plainFrom .ground text.toList)

def emboldened (text : String) : String := "\x1b[1m" ++ text ++ "\x1b[0m"

def underlined (text : String) : String := "\x1b[1m\x1b[4m" ++ text ++ "\x1b[0m"

end DesktopHost.Terminal
