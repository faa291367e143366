/-!
Finding one list inside another, and cutting one at a separator, for characters and bytes alike.
-/

set_option autoImplicit false

namespace DesktopHost

/-- Cuts at every `sep`, so there is one part more than there are separators. -/
def splitOn {α : Type} [DecidableEq α] (sep : α) : List α → List (List α)
  | [] => [[]]
  | c :: r =>
    if c = sep then [] :: splitOn sep r
    else
      match splitOn sep r with
      | [] => [[c]]
      | part :: rest => (c :: part) :: rest

/-- Whether `needle` stands somewhere in a list without gaps; the empty list always does. -/
def occurs {α : Type} [BEq α] (needle : List α) : List α → Bool
  | [] => needle.isEmpty
  | a :: r => needle.isPrefixOf (a :: r) || occurs needle r

theorem occurs_iff {α : Type} [BEq α] [LawfulBEq α] (needle hay : List α) :
    occurs needle hay = true ↔ needle <:+: hay := by
  induction hay with
  | nil => simp [occurs, List.isEmpty_iff]
  | cons a r ih => simp [occurs, ih, List.infix_cons_iff]

end DesktopHost
