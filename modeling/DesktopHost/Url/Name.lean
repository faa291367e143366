import DesktopHost.Text.Bidi
import DesktopHost.Text.CharClass
import DesktopHost.Text.Joining
import DesktopHost.Text.Punycode
import DesktopHost.Url.Alphabet
import DesktopHost.Url.Name.Table

/-!
International host names. A name is first spelled in the characters it stands for, then cut into
labels; each label is looked up in plain characters, coded where it has others. Coded labels are
held to the same rules as the names they stand for.
-/

set_option autoImplicit false

namespace DesktopHost.Url.Name

/-- What is read for the character `offset` places into a row. -/
def Spelling.at? : Spelling → Nat → Option (List Nat)
  | .same codes, _ => some codes
  | .shifted code, offset => some [code + offset]
  | .alternate code, offset => if offset % 2 = 0 then some [code + offset] else none

/-- What is read for a character; `none` if it may not occur. -/
def spelled? (c : Char) : Option (List Char) :=
  if Punycode.isPlain c then some [lower c]
  else if valid.has c.toNat then some [c]
  else if ignored.has c.toNat then some []
  else do
    let row ← spellings.row c.toNat
    return (← row.value.at? (c.toNat - row.first)).map Char.ofNat

/-- The characters a name stands for. Plain characters only lose their case. -/
def spell? (cs : List Char) : Option (List Char) :=
  if cs.all Punycode.isPlain then some (cs.map lower)
  else (cs.mapM spelled?).map fun parts => Canonical.compose parts.flatten

/-- A part of a name between full stops: what it stands for, and how it is looked up. -/
structure Label where
  shown : List Char
  plain : List Char
  deriving DecidableEq, Repr

namespace Label

/-- Coded text beyond this length is refused. -/
def maxCoded : Nat := 2000

/-- Longer labels are not coded. -/
def maxShown : Nat := 1000

/-- What marks a coded label. -/
def codeMark : List Char := ['x', 'n', '-', '-']

/-- A label begins with no mark, and its joiners stand where they may. -/
def isSound (cs : List Char) : Bool :=
  !cs.head?.any CharClass.isMark && Joining.allStand [] cs

/-- The name behind the mark of a coded label. It must be in the form it would be spelled in. -/
def decode? (coded : List Char) : Option (List Char) :=
  if coded.isEmpty || coded.getLast? == some '-' || maxCoded < coded.length ||
      !coded.all Punycode.isPlain then none
  else do
    let shown ← Punycode.decode? coded
    if spell? shown == some shown && isSound shown then some shown else none

def read? (cs : List Char) : Option Label :=
  if codeMark.isPrefixOf cs then (decode? (cs.drop codeMark.length)).map (⟨·, cs⟩)
  else if cs.all Punycode.isPlain then some ⟨cs, cs⟩
  else if isSound cs && cs.length ≤ maxShown then some ⟨cs, codeMark ++ Punycode.encode cs⟩
  else none

end Label

/-- Text of both directions in one name is held to a rule on its labels. -/
def isDirected (labels : List Label) : Bool :=
  !labels.any (·.shown.any BidiClass.runsRight) ||
    labels.all fun l => BidiClass.isSoundLabel (l.shown.map BidiClass.ofChar)

/-- The plain form of a name. -/
def plain? (cs : List Char) : Option (List Char) := do
  let cs ← spell? cs
  if cs.any forbiddenInDomain then none
  let labels ← (splitOn '.' cs).mapM Label.read?
  if isDirected labels then some (['.'].intercalate (labels.map (·.plain))) else none

end DesktopHost.Url.Name
