import DesktopHost.Json.Token

/-!
JSON values. Objects keep their members in order, repeated keys included; what a reader makes of
those is its own affair. `tokens` writes a value, `ofTokens?` reads one.
-/

set_option autoImplicit false

namespace DesktopHost

inductive JsonValue where
  | null
  | bool (b : Bool)
  | number (n : JsonNumber)
  | text (t : JsonText)
  | list (items : List JsonValue)
  | object (members : List (JsonText × JsonValue))

namespace JsonValue

mutual

def tokens : JsonValue → List JsonToken
  | .null => [.null]
  | .bool b => [.bool b]
  | .number n => [.number n]
  | .text t => [.text t]
  | .list items => .openList :: (itemTokens items ++ [.closeList])
  | .object members => .openObject :: (memberTokens members ++ [.closeObject])

def itemTokens : List JsonValue → List JsonToken
  | [] => []
  | [v] => v.tokens
  | v :: w :: r => v.tokens ++ .comma :: itemTokens (w :: r)

def memberTokens : List (JsonText × JsonValue) → List JsonToken
  | [] => []
  | [(k, v)] => .text k :: .colon :: v.tokens
  | (k, v) :: w :: r => .text k :: .colon :: (v.tokens ++ .comma :: memberTokens (w :: r))

end

mutual

/-- One value at the front, read by at most `fuel` nested steps. -/
def value? (fuel : Nat) (ts : List JsonToken) : Option (JsonValue × List JsonToken) :=
  match fuel with
  | 0 => none
  | fuel + 1 =>
    match ts with
    | .null :: r => some (.null, r)
    | .bool b :: r => some (.bool b, r)
    | .number n :: r => some (.number n, r)
    | .text t :: r => some (.text t, r)
    | .openList :: .closeList :: r => some (.list [], r)
    | .openList :: r => (items? fuel r).map fun p => (.list p.1, p.2)
    | .openObject :: .closeObject :: r => some (.object [], r)
    | .openObject :: r => (members? fuel r).map fun p => (.object p.1, p.2)
    | _ => none

/-- One item or more, and the end of their list. -/
def items? (fuel : Nat) (ts : List JsonToken) : Option (List JsonValue × List JsonToken) :=
  match fuel with
  | 0 => none
  | fuel + 1 =>
    match value? fuel ts with
    | some (v, .closeList :: r) => some ([v], r)
    | some (v, .comma :: r) => (items? fuel r).map fun p => (v :: p.1, p.2)
    | _ => none

/-- One member or more, and the end of their object. -/
def members? (fuel : Nat) (ts : List JsonToken) :
    Option (List (JsonText × JsonValue) × List JsonToken) :=
  match fuel with
  | 0 => none
  | fuel + 1 =>
    match ts with
    | .text k :: .colon :: r =>
      match value? fuel r with
      | some (v, .closeObject :: rest) => some ([(k, v)], rest)
      | some (v, .comma :: rest) => (members? fuel rest).map fun p => ((k, v) :: p.1, p.2)
      | _ => none
    | _ => none

end

/-- The value that all of the tokens make up. Every nested step takes a token or leaves a pair of
them for the next, so twice their number is enough. -/
def ofTokens? (ts : List JsonToken) : Option JsonValue :=
  match value? (2 * ts.length + 2) ts with
  | some (v, []) => some v
  | _ => none

/-- Reads a whole text as one value. -/
def read? (cs : List Char) : Option JsonValue := (JsonToken.ofChars? cs).bind ofTokens?

/-- The compact text of a value. -/
def chars (v : JsonValue) : List Char := v.tokens.flatMap JsonToken.chars

def print (v : JsonValue) : String := String.ofList v.chars

mutual

/-- How deeply lists and objects are nested. -/
def depth : JsonValue → Nat
  | .list items => itemsDepth items + 1
  | .object members => membersDepth members + 1
  | _ => 0

def itemsDepth : List JsonValue → Nat
  | [] => 0
  | v :: r => max v.depth (itemsDepth r)

def membersDepth : List (JsonText × JsonValue) → Nat
  | [] => 0
  | (_, v) :: r => max v.depth (membersDepth r)

end

mutual

/-- Whether all texts are well formed and all numbers fit a double. -/
def isPlain : JsonValue → Bool
  | .null => true
  | .bool _ => true
  | .number n => n.isFinite
  | .text t => JsonText.isWellFormed t
  | .list items => itemsPlain items
  | .object members => membersPlain members

def itemsPlain : List JsonValue → Bool
  | [] => true
  | v :: r => v.isPlain && itemsPlain r

def membersPlain : List (JsonText × JsonValue) → Bool
  | [] => true
  | (k, v) :: r => JsonText.isWellFormed k && v.isPlain && membersPlain r

end

end JsonValue
end DesktopHost
