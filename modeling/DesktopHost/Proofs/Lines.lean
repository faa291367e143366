import DesktopHost.Proofs.Decoding
import DesktopHost.Proofs.FirstSignal
import Mathlib.Data.List.DropRight
import Mathlib.Data.List.Infix

/-!
The lines of a stream, however its bytes are cut into chunks. A reader cuts at line feeds as the
bytes arrive and decodes each line by itself; that gives the same lines as to wait, to decode
everything at once, and to cut the text.
-/

set_option autoImplicit false

namespace DesktopHost

section Splitting

variable {α : Type} [DecidableEq α] {sep : α}

theorem splitOn_of_not_mem {l : List α} (h : sep ∉ l) : splitOn sep l = [l] := by
  induction l with
  | nil => rfl
  | cons c r ih =>
    rw [List.mem_cons, not_or] at h
    rw [splitOn, if_neg (Ne.symm h.1), ih h.2]

theorem splitOn_append_cons {l : List α} (h : sep ∉ l) (r : List α) :
    splitOn sep (l ++ sep :: r) = l :: splitOn sep r := by
  induction l with
  | nil => rw [List.nil_append, splitOn, if_pos rfl]
  | cons c l ih =>
    rw [List.mem_cons, not_or] at h
    rw [List.cons_append, splitOn, if_neg (Ne.symm h.1), ih h.2]

end Splitting

namespace Output

/-- Bytes are some that hold no line feed, or such with a line feed and more bytes after them. -/
theorem line_induction {P : Bytes → Prop} (last : ∀ x, lineFeed ∉ x → P x)
    (more : ∀ x y, lineFeed ∉ x → P y → P (x ++ lineFeed :: y)) (bs : Bytes) : P bs := by
  induction hn : bs.length using Nat.strongRecOn generalizing bs with
  | _ n ih =>
    by_cases h : lineFeed ∈ bs
    · obtain ⟨x, y, rfl, hx⟩ := List.eq_append_cons_of_mem h
      refine more x y hx (ih y.length ?_ y rfl)
      rw [← hn, List.length_append, List.length_cons]
      omega
    · exact last bs h

theorem cutLines_of_not_mem {x : Bytes} (h : lineFeed ∉ x) : cutLines x = ([], x) := by
  induction x with
  | nil => rfl
  | cons b r ih =>
    rw [List.mem_cons, not_or] at h
    rw [cutLines, ih h.2]
    dsimp only
    rw [if_neg (Ne.symm h.1)]

theorem cutLines_append_feed {x : Bytes} (h : lineFeed ∉ x) (y : Bytes) :
    cutLines (x ++ lineFeed :: y) = (x :: (cutLines y).1, (cutLines y).2) := by
  induction x with
  | nil =>
    rw [List.nil_append, cutLines]
    dsimp only
    rw [if_pos rfl]
  | cons b r ih =>
    rw [List.mem_cons, not_or] at h
    rw [List.cons_append, cutLines, ih h.2]
    dsimp only
    rw [if_neg (Ne.symm h.1)]

/-- No line is unfinished that has its line feed. -/
theorem not_mem_unfinished (bs : Bytes) : lineFeed ∉ (cutLines bs).2 := by
  induction bs using line_induction with
  | last x hx => rwa [cutLines_of_not_mem hx]
  | more x y hx ih => rwa [cutLines_append_feed hx]

/-- To cut as the bytes arrive is to cut them all together. -/
theorem cutLines_append (x y : Bytes) : cutLines (x ++ y) =
    ((cutLines x).1 ++ (cutLines ((cutLines x).2 ++ y)).1,
      (cutLines ((cutLines x).2 ++ y)).2) := by
  induction x using line_induction with
  | last x hx => rw [cutLines_of_not_mem hx, List.nil_append]
  | more x z hx ih =>
    rw [List.append_assoc, List.cons_append, cutLines_append_feed hx, cutLines_append_feed hx, ih,
      List.cons_append]

/-- What a stream has delivered by the instant `t`, up to the first read that is lost, and whether
it has ended. -/
def delivered (t : Nat) : List Chunk → Bytes × Bool
  | [] => ([], false)
  | c :: rest =>
    if t < c.time ∨ c.isLost = true then ([], false)
    else if c.ends then (c.data, true)
    else (c.data ++ (delivered t rest).1, (delivered t rest).2)

/-- The lines of some bytes, each decoded by itself; an unfinished one counts at the end only. -/
def linesApart (bs : Bytes) (ended : Bool) : List String :=
  (cutLines bs).1.map (fun l => Utf8.lossy (dropReturn l)) ++
    if ended = true ∧ (cutLines bs).2 ≠ [] then [Utf8.lossy (cutLines bs).2] else []

theorem timelineFrom_closed (u : Bytes) (start : Nat) (chunks : List Chunk) :
    timelineFrom ⟨u, true⟩ start chunks = [] := by
  induction chunks generalizing start with
  | nil => rfl
  | cons c rest ih =>
    rw [timelineFrom, Reader.feed, if_pos rfl]
    exact ih _

theorem linesApart_open (bs : Bytes) :
    linesApart bs false = (cutLines bs).1.map fun l => Utf8.lossy (dropReturn l) := by
  simp [linesApart]

/-- Lines that are complete stay as they are when more arrives. -/
theorem linesApart_append (x y : Bytes) (ended : Bool) : linesApart (x ++ y) ended =
    (cutLines x).1.map (fun l => Utf8.lossy (dropReturn l)) ++
      linesApart ((cutLines x).2 ++ y) ended := by
  rw [linesApart, cutLines_append, List.map_append, List.append_assoc]
  rfl

/-- An open reader takes in a chunk. -/
theorem feed_of_open (u : Bytes) {c : Chunk} (hlost : c.isLost = false) :
    (Reader.mk u false).feed c =
      (if c.ends then ⟨[], true⟩ else ⟨(cutLines (u ++ c.data)).2, false⟩,
        linesApart (u ++ c.data) c.ends) := by
  unfold Reader.feed linesApart
  rw [if_neg Bool.false_ne_true, hlost, if_neg Bool.false_ne_true]
  dsimp only
  cases c.ends <;> cases (cutLines (u ++ c.data)).2 <;> simp

theorem timelineFrom_cons (r : Reader) (start : Nat) (c : Chunk) (rest : List Chunk) :
    timelineFrom r start (c :: rest) = (r.feed c).2.map (max start c.time, ·) ++
      timelineFrom (r.feed c).1 (max start c.time) rest := rfl

/-- Nothing is read before the first chunk. -/
theorem filter_timelineFrom_of_lt {c : Chunk} {t : Nat} (h : t < c.time) (r : Reader)
    (start : Nat) (rest : List Chunk) :
    (timelineFrom r start (c :: rest)).filter (·.1 ≤ t) = [] := by
  have heq : timelineFrom r start (c :: rest) =
      timelineFrom r (max start c.time) (c :: rest) := by
    rw [timelineFrom_cons, timelineFrom_cons, max_assoc, max_self]
  refine List.filter_eq_nil_iff.2 fun l hl => ?_
  rw [heq] at hl
  have hle := (timelineFrom_sorted r _ _).1 l hl
  rw [decide_eq_true_iff]
  omega

/-- What has been read by `t` are the lines of all that has been delivered by `t`. -/
theorem lines_delivered {u : Bytes} (hu : lineFeed ∉ u) {start t : Nat} (hs : start ≤ t)
    (chunks : List Chunk) :
    ((timelineFrom ⟨u, false⟩ start chunks).filter (·.1 ≤ t)).map (·.2) =
      linesApart (u ++ (delivered t chunks).1) (delivered t chunks).2 := by
  induction chunks generalizing u start with
  | nil => simp [timelineFrom, delivered, linesApart, cutLines_of_not_mem hu]
  | cons c rest ih =>
    have hnothing : linesApart (u ++ []) false = [] := by
      simp [linesApart, cutLines_of_not_mem hu]
    rw [delivered]
    rcases Nat.lt_or_ge t c.time with htime | htime
    · rw [filter_timelineFrom_of_lt htime, if_pos (.inl htime), hnothing]
      rfl
    · have hnow : max start c.time ≤ t := Nat.max_le.2 ⟨hs, htime⟩
      have hlines (ls : List String) :
          ((ls.map (max start c.time, ·)).filter (·.1 ≤ t)).map (·.2) = ls := by
        rw [List.filter_eq_self.2, List.map_map]
        · exact List.map_id ls
        · intro l hl
          obtain ⟨text, -, rfl⟩ := List.mem_map.1 hl
          exact decide_eq_true hnow
      rw [timelineFrom_cons, List.filter_append, List.map_append, hlines]
      cases hlost : c.isLost with
      | true =>
        rw [if_pos (.inr rfl), hnothing, Reader.feed, if_neg Bool.false_ne_true, if_pos hlost,
          timelineFrom_closed]
        rfl
      | false =>
        rw [if_neg (not_or.2 ⟨Nat.not_lt.2 htime, Bool.false_ne_true⟩), feed_of_open u hlost]
        cases hends : c.ends with
        | true =>
          simp only [if_true]
          rw [timelineFrom_closed, List.filter_nil, List.map_nil, List.append_nil]
        | false =>
          simp only [Bool.false_eq_true, if_false]
          rw [ih (not_mem_unfinished _) hnow, ← List.append_assoc, linesApart_open,
            ← linesApart_append]

/-- A line of text without one carriage return at its end. -/
def withoutReturn (line : List Char) : List Char :=
  if line.getLast? = some '\r' then line.dropLast else line

/-- The lines of a text: what stands before each line feed, less one carriage return at its end,
and what stands after the last of them, as it is, if that is anything. -/
def textLines (text : List Char) : List (List Char) :=
  (splitOn '\n' text).dropLast.map withoutReturn ++
    ((splitOn '\n' text).getLast?.filter fun rest => rest ≠ []).toList

/-- The lines of some bytes, decoded together; before the end, up to the last line feed only. -/
def linesAtOnce (bs : Bytes) (ended : Bool) : List String :=
  (textLines (Utf8.lossyChars (if ended then bs else bs.rdropWhile (· ≠ lineFeed)))).map
    String.ofList

theorem newline_mem_lossyChars {bs : Bytes} (h : '\n' ∈ Utf8.lossyChars bs) : lineFeed ∈ bs := by
  rw [← List.singleton_infix_iff] at h ⊢
  exact (Utf8.infix_lossyChars_iff (by decide) bs).1 h

theorem lossyChars_append_feed (x y : Bytes) : Utf8.lossyChars (x ++ lineFeed :: y) =
    Utf8.lossyChars x ++ '\n' :: Utf8.lossyChars y :=
  Utf8.lossyChars_around x y (List.cons_ne_nil '\n' [])

/-- Decoding leaves line feeds where they are. -/
theorem splitOn_lossyChars (bs : Bytes) : splitOn '\n' (Utf8.lossyChars bs) =
    ((cutLines bs).1 ++ [(cutLines bs).2]).map Utf8.lossyChars := by
  induction bs using line_induction with
  | last x hx =>
    rw [splitOn_of_not_mem fun h => hx (newline_mem_lossyChars h), cutLines_of_not_mem hx]
    rfl
  | more x y hx ih =>
    rw [lossyChars_append_feed, splitOn_append_cons fun h => hx (newline_mem_lossyChars h), ih,
      cutLines_append_feed hx]
    rfl

/-- Decoding leaves a carriage return at the end of a line where it is. -/
theorem withoutReturn_lossyChars (line : Bytes) :
    withoutReturn (Utf8.lossyChars line) = Utf8.lossyChars (dropReturn line) := by
  unfold withoutReturn dropReturn
  by_cases h : line.getLast? = some carriageReturn
  · obtain ⟨front, rfl⟩ := List.getLast?_eq_some_iff.1 h
    have hdecoded : Utf8.lossyChars (front ++ [carriageReturn]) =
        Utf8.lossyChars front ++ ['\r'] :=
      Utf8.lossyChars_around front [] (List.cons_ne_nil '\r' [])
    rw [hdecoded]
    simp
  · rw [if_neg fun hr => ?_, if_neg (by simpa using h)]
    obtain ⟨front, hfront⟩ := List.getLast?_eq_some_iff.1 hr
    obtain ⟨u, v, rfl, hv⟩ := Utf8.exists_around (z := []) (by rw [hfront, List.append_nil])
      (show Utf8.replacement ∉ ['\r'] by decide)
    rw [hv rfl, List.append_nil] at h
    exact h (by simp [show Utf8.encodeChars ['\r'] = [carriageReturn] from rfl])

theorem lossyChars_eq_nil_iff {bs : Bytes} : Utf8.lossyChars bs = [] ↔ bs = [] := by
  cases bs with
  | nil => exact iff_of_true rfl rfl
  | cons a r =>
    rw [Utf8.lossyChars, Utf8.scan_cons]
    exact iff_of_false (List.cons_ne_nil _ _) (List.cons_ne_nil _ _)

/-- Up to the last line feed there are the complete lines, and nothing else. -/
theorem cutLines_rdropWhile (bs : Bytes) :
    cutLines (bs.rdropWhile (· ≠ lineFeed)) = ((cutLines bs).1, []) := by
  induction bs using line_induction with
  | last x hx =>
    rw [cutLines_of_not_mem hx, List.rdropWhile_eq_nil_iff.2]
    · rfl
    · exact fun b hb => decide_eq_true fun h => hx (h ▸ hb)
  | more x y hx ih =>
    have hstop : (x ++ lineFeed :: y).rdropWhile (· ≠ lineFeed) =
        x ++ lineFeed :: y.rdropWhile (· ≠ lineFeed) := by
      unfold List.rdropWhile
      rw [List.reverse_append, List.reverse_cons, List.append_assoc, List.dropWhile_append]
      have hkeep : (lineFeed :: [] ++ x.reverse).dropWhile (fun b => decide (b ≠ lineFeed)) =
          lineFeed :: x.reverse := List.dropWhile_cons_of_neg (by simp)
      split
      · next hy => rw [hkeep, List.isEmpty_iff.1 hy]; simp
      · simp
    rw [hstop, cutLines_append_feed hx, cutLines_append_feed hx, ih]

theorem textLines_lossyChars (bs : Bytes) :
    (textLines (Utf8.lossyChars bs)).map String.ofList = linesApart bs true := by
  have hlines (lines : List Bytes) :
      ((lines.map Utf8.lossyChars).map withoutReturn).map String.ofList =
        lines.map fun l => Utf8.lossy (dropReturn l) := by
    rw [List.map_map, List.map_map]
    exact List.map_congr_left fun l _ => congrArg String.ofList (withoutReturn_lossyChars l)
  unfold textLines linesApart
  rw [splitOn_lossyChars, List.map_append, List.map_append, List.map_cons, List.map_nil,
    List.dropLast_concat, List.getLast?_concat, hlines]
  by_cases h : (cutLines bs).2 = []
  · simp [h, lossyChars_eq_nil_iff]
  · simp [h, lossyChars_eq_nil_iff, Utf8.lossy]

/-- To decode all lines at once is to decode each by itself. -/
theorem linesAtOnce_eq_linesApart (bs : Bytes) (ended : Bool) :
    linesAtOnce bs ended = linesApart bs ended := by
  unfold linesAtOnce
  rw [textLines_lossyChars]
  cases ended with
  | true => rfl
  | false =>
    rw [if_neg Bool.false_ne_true, linesApart, linesApart_open, cutLines_rdropWhile]
    simp

/-- However the bytes of a stream are cut into chunks: at every instant the lines that its reader
has read are those of all that has been delivered, decoded at once. -/
theorem lines_as_if_at_once (chunks : List Chunk) (t : Nat) :
    ((timeline chunks).filter (·.1 ≤ t)).map (·.2) =
      linesAtOnce (delivered t chunks).1 (delivered t chunks).2 := by
  rw [linesAtOnce_eq_linesApart]
  exact lines_delivered List.not_mem_nil (Nat.zero_le t) chunks

end Output
end DesktopHost
