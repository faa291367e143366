import DesktopHost.Json.Number
import DesktopHost.Json.Text

/-!
The tokens of a JSON text. Blanks may stand between any two of them and mean nothing.
-/

set_option autoImplicit false

namespace DesktopHost

inductive JsonToken where
  | openObject | closeObject | openList | closeList | colon | comma
  | null
  | bool (b : Bool)
  | number (n : JsonNumber)
  | text (t : JsonText)
  deriving DecidableEq, Repr

namespace JsonToken

def isBlank (c : Char) : Bool := c == ' ' || c == '\n' || c == '\t' || c == '\r'

def punctuation : List (Char × JsonToken) :=
  [('\x7b', .openObject), ('\x7d', .closeObject), ('[', .openList), (']', .closeList),
    (':', .colon), (',', .comma)]

def words : List (List Char × JsonToken) :=
  [(['n', 'u', 'l', 'l'], .null), (['t', 'r', 'u', 'e'], .bool true),
    (['f', 'a', 'l', 's', 'e'], .bool false)]

/-- A word at the front of a text, and what follows it. -/
def word? (cs : List Char) : Option (JsonToken × List Char) :=
  (words.find? fun w => w.1.isPrefixOf cs).map fun w => (w.2, cs.drop w.1.length)

/-- The token at the front of a text that starts with no blank. -/
def next? (c : Char) (r : List Char) : Option (JsonToken × List Char) :=
  match punctuation.lookup c with
  | some t => some (t, r)
  | none =>
    if c == '"' then (JsonText.read? r).map fun p => (.text p.1, p.2)
    else
      match word? (c :: r) with
      | some p => some p
      | none => (JsonNumber.read? (c :: r)).map fun p => (.number p.1, p.2)

theorem word?_length {cs r : List Char} {t : JsonToken} (h : word? cs = some (t, r)) :
    r.length < cs.length := by
  obtain ⟨w, hw, he⟩ := Option.map_eq_some_iff.1 h
  cases he
  have hm := List.mem_of_find?_eq_some hw
  have hp := List.find?_some hw
  have hle := (List.isPrefixOf_iff_prefix.1 hp).length_le
  have hpos : 0 < w.1.length := by
    simp only [words, List.mem_cons, List.not_mem_nil, or_false] at hm
    rcases hm with rfl | rfl | rfl <;> decide
  rw [List.length_drop]; omega

theorem next?_length {c : Char} {r rest : List Char} {t : JsonToken}
    (h : next? c r = some (t, rest)) : rest.length < r.length + 1 := by
  unfold next? at h
  split at h
  · cases h; omega
  · split at h
    · obtain ⟨p, hp, he⟩ := Option.map_eq_some_iff.1 h
      cases he
      have := JsonText.read?_length hp
      omega
    · split at h
      · next p hp =>
        cases h
        have := word?_length hp
        simpa using this
      · obtain ⟨p, hp, he⟩ := Option.map_eq_some_iff.1 h
        cases he
        have := JsonNumber.read?_length hp
        simpa using this

/-- Cuts a whole text into tokens. -/
def ofChars? (cs : List Char) : Option (List JsonToken) :=
  match cs with
  | [] => some []
  | c :: r =>
    if isBlank c then ofChars? r
    else
      match _h : next? c r with
      | none => none
      | some (t, rest) => (ofChars? rest).map (t :: ·)
termination_by cs.length
decreasing_by
  · simp
  · have := next?_length _h
    simpa using this

/-- The written form of one token. -/
def chars : JsonToken → List Char
  | .openObject => ['\x7b']
  | .closeObject => ['\x7d']
  | .openList => ['[']
  | .closeList => [']']
  | .colon => [':']
  | .comma => [',']
  | .null => ['n', 'u', 'l', 'l']
  | .bool true => ['t', 'r', 'u', 'e']
  | .bool false => ['f', 'a', 'l', 's', 'e']
  | .number n => n.chars
  | .text t => JsonText.chars t

theorem ofChars?_blank {c : Char} (r : List Char) (h : isBlank c = true) :
    ofChars? (c :: r) = ofChars? r := by
  rw [ofChars?]; simp [h]

end JsonToken
end DesktopHost
