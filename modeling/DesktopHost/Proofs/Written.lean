import DesktopHost.Proofs.Lexing
import DesktopHost.Text.Numeral

/-!
Numbers and strings as they are written. A whole number is its digits behind an optional minus, and
a string of literal characters is those characters between quotes; both are read back whole.
-/

set_option autoImplicit false

namespace DesktopHost

namespace JsonNumber

theorem exists_toDigits_cons (n : Nat) :
    ∃ c ds, Nat.toDigits 10 n = c :: ds ∧ isDigit c = true := by
  obtain ⟨c, ds, hds⟩ := List.exists_cons_of_ne_nil (Nat.toDigits_ne_nil (n := n) (b := 10))
  exact ⟨c, ds, hds, Numeral.isDigit_of_mem_toDigits (hds ▸ List.mem_cons_self)⟩

theorem head_toDigits {n : Nat} (h : 0 < n) : (Nat.toDigits 10 n).head? ≠ some '0' := by
  induction n using Nat.strong_induction_on with
  | _ n ih =>
    by_cases hlt : n < 10
    · have hdigit : ∀ d < 10, 0 < d → [Nat.digitChar d].head? ≠ some '0' := by decide
      rw [Nat.toDigits_of_lt_base hlt]
      exact hdigit n hlt h
    · rw [Nat.toDigits_of_base_le (by decide) (Nat.not_lt.1 hlt)]
      obtain ⟨c, ds, hds, -⟩ := exists_toDigits_cons (n / 10)
      have hhead := ih (n / 10) (by omega) (by omega)
      rw [hds] at hhead ⊢
      exact hhead

theorem whole?_toDigits (n : Nat) {r : List Char} (hr : EndsNumber r) :
    whole? (Nat.toDigits 10 n ++ r) = some (Nat.toDigits 10 n, r) := by
  obtain rfl | hpos := Nat.eq_zero_or_pos n
  · rfl
  · obtain ⟨c, ds, hds, -⟩ := exists_toDigits_cons n
    have hdigits : digits? (Nat.toDigits 10 n ++ r) = some (Nat.toDigits 10 n, r) :=
      digits?_append Nat.toDigits_ne_nil (fun c => Numeral.isDigit_of_mem_toDigits)
        fun c hc => (goesOn_eq_false (hr c hc)).1
    have hhead := head_toDigits hpos
    rw [hds] at hdigits hhead ⊢
    unfold whole?
    split
    · next he =>
      cases he
      exact absurd rfl hhead
    · exact hdigits

theorem unsigned?_toDigits (negative : Bool) (n : Nat) {r : List Char} (hr : EndsNumber r) :
    unsigned? negative (Nat.toDigits 10 n ++ r) =
      some (⟨negative, Nat.toDigits 10 n, none, none⟩, r) := by
  have hfraction := fraction?_of_head fun c hc => (goesOn_eq_false (hr c hc)).2.1
  have hexponent := exponent?_of_head fun c hc => (goesOn_eq_false (hr c hc)).2.2.1
  simp [unsigned?, whole?_toDigits n hr, hfraction, hexponent]

theorem chars_ofInt (i : Int) :
    (ofInt i).chars = (if i < 0 then ['-'] else []) ++ Nat.toDigits 10 i.natAbs := by
  simp [chars, ofInt]

/-- A whole number begins with a minus or a digit. -/
theorem chars_ofInt_cons (i : Int) :
    ∃ c cs, (ofInt i).chars = c :: cs ∧ (c = '-' ∨ isDigit c = true) := by
  rw [chars_ofInt]
  by_cases hneg : i < 0
  · rw [if_pos hneg]
    exact ⟨'-', _, rfl, .inl rfl⟩
  · obtain ⟨c, ds, hds, hc⟩ := exists_toDigits_cons i.natAbs
    rw [if_neg hneg, hds]
    exact ⟨c, ds, rfl, .inr hc⟩

theorem read?_of_ne_minus {c : Char} (h : c ≠ '-') (r : List Char) :
    read? (c :: r) = unsigned? false (c :: r) := by
  unfold read?
  split
  · next he =>
    cases he
    exact absurd rfl h
  · rfl

/-- Whole numbers are read as they are written. -/
theorem read?_ofInt (i : Int) {r : List Char} (hr : EndsNumber r) :
    read? ((ofInt i).chars ++ r) = some (ofInt i, r) := by
  rw [chars_ofInt]
  by_cases hneg : i < 0
  · have hread := unsigned?_toDigits true i.natAbs hr
    simpa [hneg, ofInt, read?] using hread
  · have hread := unsigned?_toDigits false i.natAbs hr
    obtain ⟨c, ds, hds, hdigit⟩ := exists_toDigits_cons i.natAbs
    have hc : c ≠ '-' := by
      rintro rfl
      cases hdigit
    rw [if_neg hneg, List.nil_append]
    simp only [ofInt, decide_eq_false hneg]
    rw [hds] at hread ⊢
    exact (read?_of_ne_minus hc _).trans hread

theorem digitsValue_toDigits (n : Nat) : digitsValue (Nat.toDigits 10 n) = n :=
  Numeral.value_toDigits n

theorem integer?_ofInt (i : Int) : (ofInt i).integer? = some i := by
  simp only [integer?, ofInt, digitsValue_toDigits]
  by_cases hneg : i < 0
  · rw [if_pos (decide_eq_true hneg), if_neg (by omega)]
    congr 1
    omega
  · rw [if_neg (by simpa using hneg)]
    congr 1
    omega

/-- Digits behind a number. -/
def extend (n : Nat) (ds : List Char) : Nat :=
  ds.foldl (fun n c => n * 10 + (c.toNat - '0'.toNat)) n

theorem le_extend (n : Nat) (ds : List Char) : n ≤ extend n ds := by
  induction ds generalizing n with
  | nil => exact Nat.le_refl n
  | cons c ds ih =>
    have hstep := ih (n * 10 + (c.toNat - '0'.toNat))
    exact Nat.le_trans (by omega) hstep

/-- No digit is left over while the number they make up stays below the limit. -/
theorem gather_eq {n : Nat} {ds : List Char} (h : extend n ds < significandLimit) :
    gather n ds = (extend n ds, []) := by
  induction ds generalizing n with
  | nil => rfl
  | cons c ds ih =>
    have hstep := Nat.lt_of_le_of_lt (le_extend (n * 10 + (c.toNat - '0'.toNat)) ds) h
    rw [gather, if_pos hstep]
    exact ih h

/-- A double holds every whole number below this one. -/
def exactLimit : Nat := Nat.pow 2 53

theorem nearest_eq {n : Nat} (h : n < exactLimit) : nearest n = n := by
  have hlog : n.log2 - 52 = 0 := by
    obtain rfl | hpos := Nat.eq_zero_or_pos n
    · rfl
    · have hbits : n.log2 < 53 := (Nat.log2_lt (Nat.ne_of_gt hpos)).2 h
      omega
  simp [nearest, hlog, Nat.mod_one]

theorem le_pow_sub_pow {j k : Nat} (hk : 53 ≤ k) (hj : k < j) :
    exactLimit ≤ Nat.pow 2 j - Nat.pow 2 k := by
  have hlow : exactLimit ≤ 2 ^ k := Nat.pow_le_pow_right (by decide) hk
  have hhigh : 2 ^ (k + 1) ≤ 2 ^ j := Nat.pow_le_pow_right (by decide) hj
  rw [Nat.pow_succ] at hhigh
  simp only [Nat.pow_eq]
  omega

theorem le_tooLarge : exactLimit ≤ tooLarge := by
  rw [tooLarge]
  apply le_pow_sub_pow <;> decide

theorem isFinite_ofInt {n : Nat} (h : n < exactLimit) : (ofInt n).isFinite = true := by
  have hgather : gather 0 (Nat.toDigits 10 n) = (n, []) := by
    have hvalue : extend 0 (Nat.toDigits 10 n) = n := digitsValue_toDigits n
    have hlimit : exactLimit ≤ significandLimit := by decide
    rw [gather_eq (by rw [hvalue]; omega), hvalue]
  have hscaled : (ofInt n).scaled = (n, 0) := by
    simp [scaled, ofInt, hgather, gather]
  have hone : nearest (Nat.pow 10 0) = 1 := nearest_eq (by decide)
  have hlarge := le_tooLarge
  have hproduct : productIsFinite n 0 = true := by
    by_cases hzero : n = 0
    · simp [productIsFinite, hzero]
    · have hfits : nearest n * nearest (Nat.pow 10 0) < tooLarge := by
        rw [nearest_eq h, hone]
        omega
      simpa [productIsFinite, hzero, maxPower] using hfits
  unfold isFinite
  rw [hscaled]
  exact hproduct

end JsonNumber

namespace JsonText

variable {s : List Char}

theorem read?_ofChars (h : ∀ c ∈ s, isLiteral c = true) (r : List Char) :
    read? (s ++ '"' :: r) = some (ofChars s, r) := by
  induction s with
  | nil => rfl
  | cons c s ih =>
    obtain ⟨hc, hs⟩ := List.forall_mem_cons.1 h
    rw [List.cons_append, read?_literal hc, ih hs]
    rfl

theorem pieceChars_literal {c : Char} (h : isLiteral c = true) : pieceChars (.char c) = [c] := by
  simp only [isLiteral, Bool.and_eq_true, bne_iff_ne, decide_eq_true_eq] at h
  obtain ⟨⟨hquote, hback⟩, hcontrol⟩ := h
  have hnone : shortEscapes.find? (fun e => e.2 == c && c != '/') = none := by
    refine List.find?_eq_none.2 ?_
    simp only [shortEscapes, List.forall_mem_cons, Bool.and_eq_true, beq_iff_eq, bne_iff_ne]
    refine ⟨?_, ?_, ?_, ?_, ?_, ?_, ?_, ?_, List.forall_mem_nil _⟩ <;> rintro ⟨rfl, hslash⟩
    · exact hquote rfl
    · exact hback rfl
    · exact hslash rfl
    all_goals exact absurd hcontrol (by decide)
  simp [pieceChars, hnone, Nat.not_lt.2 hcontrol]

theorem chars_ofChars (h : ∀ c ∈ s, isLiteral c = true) :
    chars (ofChars s) = '"' :: (s ++ ['"']) := by
  have hpieces : (ofChars s).flatMap pieceChars = s := by
    induction s with
    | nil => rfl
    | cons c s ih =>
      obtain ⟨hc, hs⟩ := List.forall_mem_cons.1 h
      simp only [ofChars, List.map_cons, List.flatMap_cons, pieceChars_literal hc] at ih ⊢
      rw [ih hs]
      rfl
  rw [chars, hpieces]

/-- A text that is written without escapes. -/
def AllLiteral (t : JsonText) : Prop := ∃ s, t = ofChars s ∧ ∀ c ∈ s, isLiteral c = true

theorem allLiteral_ofString {s : String} (h : s.toList.all isLiteral = true) :
    AllLiteral (ofString s) :=
  ⟨s.toList, rfl, List.all_eq_true.1 h⟩

theorem isWellFormed_ofChars (s : List Char) : isWellFormed (ofChars s) = true := by
  simp [isWellFormed, ofChars, TextPiece.char?]

end JsonText

namespace JsonToken

variable {r : List Char}

theorem lex_literal {t : JsonText} (h : t.AllLiteral) (r : List Char) :
    lex (JsonText.chars t ++ r) = some (.text t, r) := by
  obtain ⟨s, rfl, hs⟩ := h
  rw [JsonText.chars_ofChars hs, List.cons_append, List.append_assoc, lex_text]
  exact congrArg (Option.map _) (JsonText.read?_ofChars hs r)

theorem lex_ofInt (i : Int) (hr : EndsNumber r) :
    lex ((JsonNumber.ofInt i).chars ++ r) = some (.number (.ofInt i), r) := by
  have hread := JsonNumber.read?_ofInt i hr
  obtain ⟨c, cs, hcs, hc⟩ := JsonNumber.chars_ofInt_cons i
  rw [hcs, List.cons_append] at hread ⊢
  rw [lex_number hc, hread]
  rfl

end JsonToken

end DesktopHost
