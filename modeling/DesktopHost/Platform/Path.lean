import DesktopHost.Text.Utf8

/-!
File paths as byte strings with `/` between their parts. Joining keeps an absolute right side
whole; the parent drops the last part that names something.
-/

set_option autoImplicit false

namespace DesktopHost

abbrev Path := Bytes

namespace Path

def slash : UInt8 := 0x2F

def dot : UInt8 := 0x2E

/-- The name of the directory above. -/
def up : Bytes := [dot, dot]

def ofString (s : String) : Path := Utf8.encode s

/-- A path is shown with one replacement character per ill-formed part. -/
def display (p : Path) : String := Utf8.lossy p

def isAbsolute (p : Path) : Bool := p.head? == some slash

def join (base tail : Path) : Path :=
  if tail.isAbsolute then tail
  else if base.isEmpty || base.getLast? == some slash then base ++ tail
  else base ++ slash :: tail

/-- Cuts at every slash, so there is one part more than there are slashes. -/
def split : Path → List Bytes
  | [] => [[]]
  | b :: r =>
    if b = slash then [] :: split r
    else
      match split r with
      | [] => [[b]]
      | part :: rest => (b :: part) :: rest

def unsplit (parts : List Bytes) : Path := List.intercalate [slash] parts

/-- Empty parts and single dots name the directory they stand in. -/
def isSelf (part : Bytes) : Bool := part == [] || part == [dot]

def dropTrailingSelf (parts : List Bytes) : List Bytes :=
  (parts.reverse.dropWhile isSelf).reverse

/-- The part of a path that its last names cannot eat into: the root, or a leading single dot. -/
def anchor (p : Path) : Nat :=
  match p with
  | [] => 0
  | [b] => if b = slash || b = dot then 1 else 0
  | b :: c :: _ => if b = slash || (b = dot && c = slash) then 1 else 0

/-- The path without its last named part; the root and the empty path have none. -/
def parent? (p : Path) : Option Path :=
  let head := p.take p.anchor
  let parts := dropTrailingSelf (split (p.drop p.anchor))
  if parts.isEmpty then
    if head == [dot] then some [] else none
  else some (head ++ unsplit (dropTrailingSelf parts.dropLast))

theorem split_ne_nil (p : Path) : split p ≠ [] := by
  cases p with
  | nil => simp [split]
  | cons b r =>
    unfold split
    split
    · simp
    · split <;> simp

theorem unsplit_split (p : Path) : unsplit (split p) = p := by
  induction p with
  | nil => rfl
  | cons b r ih =>
    have hne := split_ne_nil r
    unfold split
    by_cases h : b = slash
    · subst h
      cases hs : split r with
      | nil => exact absurd hs hne
      | cons x xs =>
        rw [hs] at ih
        simp [unsplit, List.intercalate] at ih ⊢
        exact ih
    · cases hs : split r with
      | nil => exact absurd hs hne
      | cons x xs =>
        rw [hs] at ih
        cases xs with
        | nil => simp_all [unsplit, List.intercalate, List.intersperse]
        | cons y ys => simp_all [unsplit, List.intercalate, List.intersperse]

theorem unsplit_cons_cons (x y : Bytes) (r : List Bytes) :
    unsplit (x :: y :: r) = x ++ slash :: unsplit (y :: r) := by
  simp [unsplit, List.intercalate, List.intersperse]

theorem unsplit_length_le (xs ys : List Bytes) :
    (unsplit xs).length ≤ (unsplit (xs ++ ys)).length := by
  induction xs with
  | nil => exact Nat.zero_le _
  | cons x r ih =>
    cases r with
    | nil =>
      cases ys with
      | nil => exact Nat.le_refl _
      | cons y ys =>
        rw [List.singleton_append, unsplit_cons_cons]
        simp [unsplit, List.intercalate]
    | cons z r =>
      simp only [List.cons_append, unsplit_cons_cons, List.length_append, List.length_cons] at ih ⊢
      omega

theorem unsplit_length_lt (xs : List Bytes) {y : Bytes} (h : y ≠ []) :
    (unsplit xs).length < (unsplit (xs ++ [y])).length := by
  have hy := List.length_pos_iff.2 h
  induction xs with
  | nil => simpa [unsplit, List.intercalate] using hy
  | cons x r ih =>
    cases r with
    | nil => simp [unsplit, List.intercalate]
    | cons z r =>
      simp only [List.cons_append, unsplit_cons_cons, List.length_append, List.length_cons] at ih ⊢
      omega

theorem dropTrailingSelf_prefix (parts : List Bytes) :
    ∃ rest, parts = dropTrailingSelf parts ++ rest := by
  obtain ⟨front, h⟩ := List.dropWhile_suffix isSelf (l := parts.reverse)
  refine ⟨front.reverse, ?_⟩
  have := congrArg List.reverse h
  rw [List.reverse_append, List.reverse_reverse] at this
  exact this.symm

theorem unsplit_dropTrailingSelf_length_le (parts : List Bytes) :
    (unsplit (dropTrailingSelf parts)).length ≤ (unsplit parts).length := by
  obtain ⟨rest, h⟩ := dropTrailingSelf_prefix parts
  have := unsplit_length_le (dropTrailingSelf parts) rest
  rwa [← h] at this

/-- The part that is left at the end names something. -/
theorem getLast_dropTrailingSelf_ne_nil (parts : List Bytes) (h : dropTrailingSelf parts ≠ []) :
    (dropTrailingSelf parts).getLast h ≠ [] := by
  have hne : parts.reverse.dropWhile isSelf ≠ [] := by
    intro he; exact h (by simp [dropTrailingSelf, he])
  have hlast : (dropTrailingSelf parts).getLast h = (parts.reverse.dropWhile isSelf).head hne := by
    simp [dropTrailingSelf]
  have hnot := List.head_dropWhile_not (p := isSelf) (l := parts.reverse) hne
  rw [hlast]
  intro he
  rw [he] at hnot
  simp [isSelf] at hnot

/-- The parent is shorter than the path. -/
theorem parent?_length {p q : Path} (h : p.parent? = some q) : q.length < p.length := by
  unfold parent? at h
  dsimp only at h
  split at h
  · split at h
    · next hd =>
      cases h
      cases p with
      | nil => simp at hd
      | cons b r => simp
    · cases h
  · next hne =>
    cases h
    have hp : dropTrailingSelf (split (p.drop p.anchor)) ≠ [] := by
      simpa [List.isEmpty_iff] using hne
    have h₁ := unsplit_dropTrailingSelf_length_le
      (dropTrailingSelf (split (p.drop p.anchor))).dropLast
    have h₂ := unsplit_length_lt (dropTrailingSelf (split (p.drop p.anchor))).dropLast
      (getLast_dropTrailingSelf_ne_nil _ hp)
    rw [List.dropLast_concat_getLast] at h₂
    have h₃ := unsplit_dropTrailingSelf_length_le (split (p.drop p.anchor))
    rw [unsplit_split] at h₃
    simp only [List.length_append, List.length_take, List.length_drop] at h₃ ⊢
    omega

end Path
end DesktopHost
