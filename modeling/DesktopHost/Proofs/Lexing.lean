import DesktopHost.Json.Value
import Mathlib.Data.List.TakeWhile
import Mathlib.Tactic.Common

/-!
Where the tokens of a JSON text end. A token is settled by its own characters and at most the one
behind them, so that blanks can be put in anywhere else, and texts of tokens can be joined.
-/

set_option autoImplicit false

namespace DesktopHost

namespace JsonNumber

/-- Characters with which a number can go on. -/
def goesOn (c : Char) : Bool :=
  isDigit c || c == '.' || c == 'e' || c == 'E' || c == '+' || c == '-'

end JsonNumber

/-- Text that a number before it does not run into. -/
def EndsNumber (cs : List Char) : Prop := ∀ c ∈ cs.head?, JsonNumber.goesOn c = false

/-- A text that another one may stand for, to a reader that sees one character ahead. -/
def StandsFor (r' r : List Char) : Prop := r'.head? = r.head? ∨ EndsNumber r'

namespace StandsFor

variable {r r' : List Char}

theorem append (h : StandsFor r' r) (m : List Char) : StandsFor (m ++ r') (m ++ r) := by
  cases m with
  | nil => exact h
  | cons c m => exact .inl rfl

theorem append_ends (h : EndsNumber r) (m : List Char) : StandsFor (m ++ r) m := by
  cases m with
  | nil => exact .inr h
  | cons c m => exact .inl rfl

theorem front (m r : List Char) : StandsFor m (m ++ r) := by
  cases m with
  | nil => exact .inr nofun
  | cons c m => exact .inl rfl

/-- What holds of the next character, and of any that ends a number, holds of the other's too. -/
theorem forall_head {P : Char → Prop} (h : StandsFor r' r) (hr : ∀ c ∈ r.head?, P c)
    (hends : ∀ c, JsonNumber.goesOn c = false → P c) : ∀ c ∈ r'.head?, P c := by
  intro c hc
  rcases h with he | hs
  · exact hr c (he ▸ hc)
  · exact hends c (hs c hc)

end StandsFor

/-- A reader that takes a front part, and sees at most the first character of the rest. -/
def ReadsFront {α : Type} (read : List Char → Option (α × List Char)) : Prop :=
  ∀ cs a r, read cs = some (a, r) →
    ∃ l, cs = l ++ r ∧ ∀ r', StandsFor r' r → read (l ++ r') = some (a, r')

namespace ReadsFront

variable {α β : Type}

theorem pure (a : α) : ReadsFront fun cs => some (a, cs) := by
  intro cs b r h
  cases h
  exact ⟨[], rfl, fun _ _ => rfl⟩

theorem bind {f : List Char → Option (α × List Char)}
    {g : α → List Char → Option (β × List Char)} (hf : ReadsFront f)
    (hg : ∀ a, ReadsFront (g a)) : ReadsFront fun cs => (f cs).bind fun p => g p.1 p.2 := by
  intro cs b r h
  obtain ⟨⟨a, m⟩, hfa, hgb⟩ := Option.bind_eq_some_iff.1 h
  obtain ⟨l, rfl, hl⟩ := hf cs a m hfa
  obtain ⟨k, rfl, hk⟩ := hg a m b r hgb
  refine ⟨l ++ k, (List.append_assoc ..).symm, fun r' hr' => ?_⟩
  -- an empty second part leaves the first reader to look at the rest
  simp only [List.append_assoc, hl _ (hr'.append k), Option.bind_some, hk r' hr']

theorem map {f : List Char → Option (α × List Char)} (g : α → β) (hf : ReadsFront f) :
    ReadsFront fun cs => (f cs).map fun p => (g p.1, p.2) := by
  intro cs b r h
  obtain ⟨⟨a, m⟩, hfa, he⟩ := Option.map_eq_some_iff.1 h
  cases he
  obtain ⟨l, rfl, hl⟩ := hf cs a m hfa
  exact ⟨l, rfl, fun r' hr' => by simp only [hl r' hr', Option.map_some]⟩

end ReadsFront

namespace JsonNumber

theorem goesOn_eq_false {c : Char} (h : goesOn c = false) : isDigit c = false ∧ c ≠ '.' ∧
    (c ≠ 'e' ∧ c ≠ 'E') ∧ c ≠ '+' ∧ c ≠ '-' := by
  simpa [goesOn, and_assoc] using h

theorem digits?_append {ds r : List Char} (hne : ds ≠ []) (hds : ∀ c ∈ ds, isDigit c = true)
    (hr : ∀ c ∈ r.head?, isDigit c = false) : digits? (ds ++ r) = some (ds, r) := by
  have htake : r.takeWhile isDigit = [] := by
    cases r with
    | nil => rfl
    | cons c r => simp [hr c rfl]
  have hdrop : r.dropWhile isDigit = r := by
    cases r with
    | nil => rfl
    | cons c r => simp [hr c rfl]
  unfold digits?
  rw [List.takeWhile_append_of_pos hds, List.dropWhile_append_of_pos hds, htake, hdrop,
    List.append_nil]
  split
  · contradiction
  · rfl

theorem digits?_eq_some {cs ds r : List Char} (h : digits? cs = some (ds, r)) :
    cs = ds ++ r ∧ ds ≠ [] ∧ (∀ c ∈ ds, isDigit c = true) ∧
      ∀ c ∈ r.head?, isDigit c = false := by
  unfold digits? at h
  split at h
  · cases h
  · next hne =>
    cases h
    refine ⟨List.takeWhile_append_dropWhile.symm, hne, fun c hc => List.mem_takeWhile_imp hc, ?_⟩
    intro c hc
    have hhead := List.head?_dropWhile_not isDigit cs
    rwa [Option.mem_def.1 hc] at hhead

theorem readsFront_digits? : ReadsFront digits? := by
  intro cs ds r h
  obtain ⟨rfl, hne, hds, hr⟩ := digits?_eq_some h
  exact ⟨ds, rfl, fun r' hr' => digits?_append hne hds
    (hr'.forall_head hr fun c hc => (goesOn_eq_false hc).1)⟩

theorem readsFront_whole? : ReadsFront whole? := by
  intro cs ds r h
  unfold whole? at h
  split at h
  · cases h
    exact ⟨['0'], rfl, fun _ _ => rfl⟩
  · next hzero =>
    obtain ⟨l, rfl, hl⟩ := readsFront_digits? cs ds r h
    have hpos := digits?_length h
    cases l with
    | nil => exact absurd hpos (Nat.lt_irrefl _)
    | cons d l =>
      refine ⟨d :: l, rfl, fun r' hr' => ?_⟩
      unfold whole?
      split
      · next he =>
        cases he
        exact absurd rfl (hzero (l ++ r))
      · exact hl r' hr'

theorem fraction?_of_head {cs : List Char} (h : ∀ c ∈ cs.head?, c ≠ '.') :
    fraction? cs = some (none, cs) := by
  unfold fraction?
  split
  · exact absurd rfl (h '.' rfl)
  · rfl

theorem readsFront_fraction? : ReadsFront fraction? := by
  intro cs f r h
  unfold fraction? at h
  split at h
  · obtain ⟨⟨ds, r⟩, hd, he⟩ := Option.map_eq_some_iff.1 h
    cases he
    obtain ⟨l, rfl, hl⟩ := readsFront_digits? _ _ _ hd
    exact ⟨'.' :: l, rfl, fun r' hr' => by simp [fraction?, hl r' hr']⟩
  · next hdot =>
    cases h
    have hhead : ∀ c ∈ cs.head?, c ≠ '.' := by
      rintro c hc rfl
      obtain ⟨s, rfl⟩ := List.head?_eq_some_iff.1 hc
      exact hdot s rfl
    exact ⟨[], rfl, fun r' hr' => fraction?_of_head
      (hr'.forall_head hhead fun c hc => (goesOn_eq_false hc).2.1)⟩

theorem readsFront_sign : ReadsFront fun cs => some (sign cs) := by
  have plain : ∀ cs : List Char, (∀ c ∈ cs.head?, c ≠ '+' ∧ c ≠ '-') → sign cs = ([], cs) := by
    intro cs h
    unfold sign
    split
    · exact absurd rfl (h '+' rfl).1
    · exact absurd rfl (h '-' rfl).2
    · rfl
  intro cs t r h
  by_cases hhead : ∀ c ∈ cs.head?, c ≠ '+' ∧ c ≠ '-'
  · change some (sign cs) = _ at h
    rw [plain cs hhead] at h
    cases h
    exact ⟨[], rfl, fun r' hr' => congrArg some (plain r'
      (hr'.forall_head hhead fun c hc => (goesOn_eq_false hc).2.2.2))⟩
  · cases cs with
    | nil => exact absurd nofun hhead
    | cons c s =>
      have hc : c = '+' ∨ c = '-' := by
        by_contra hne
        exact hhead fun d hd => by cases hd; exact not_or.1 hne
      rcases hc with rfl | rfl <;> cases h
      · exact ⟨['+'], rfl, fun _ _ => rfl⟩
      · exact ⟨['-'], rfl, fun _ _ => rfl⟩

theorem exponent?_of_head {cs : List Char} (h : ∀ c ∈ cs.head?, c ≠ 'e' ∧ c ≠ 'E') :
    exponent? cs = some (none, cs) := by
  cases cs with
  | nil => rfl
  | cons c r => simp [exponent?, h c rfl]

theorem readsFront_exponent? : ReadsFront exponent? := by
  have signed : ReadsFront fun cs => (some (sign cs)).bind fun p =>
      (digits? p.2).map fun q => (some (p.1, q.1), q.2) :=
    readsFront_sign.bind fun s => readsFront_digits?.map fun ds => some (s, ds)
  intro cs e r h
  by_cases hhead : ∀ c ∈ cs.head?, c ≠ 'e' ∧ c ≠ 'E'
  · rw [exponent?_of_head hhead] at h
    cases h
    exact ⟨[], rfl, fun r' hr' => exponent?_of_head
      (hr'.forall_head hhead fun c hc => (goesOn_eq_false hc).2.2.1)⟩
  · cases cs with
    | nil => exact absurd nofun hhead
    | cons c s =>
      have hc : (c == 'e' || c == 'E') = true := by
        by_contra hne
        exact hhead fun d hd => by cases hd; simpa using hne
      have hexp : ∀ s', exponent? (c :: s') =
          (digits? (sign s').2).map fun q => (some ((sign s').1, q.1), q.2) :=
        fun s' => if_pos hc
      rw [hexp] at h
      obtain ⟨l, rfl, hl⟩ := signed s e r h
      exact ⟨c :: l, rfl, fun r' hr' => (hexp (l ++ r')).trans (hl r' hr')⟩

theorem readsFront_unsigned? (negative : Bool) : ReadsFront (unsigned? negative) :=
  readsFront_whole?.bind fun whole => readsFront_fraction?.bind fun fraction =>
    readsFront_exponent?.bind fun exponent =>
      ReadsFront.pure (⟨negative, whole, fraction, exponent⟩ : JsonNumber)

theorem readsFront_read? : ReadsFront read? := by
  intro cs n r h
  unfold read? at h
  split at h
  · obtain ⟨l, rfl, hl⟩ := readsFront_unsigned? true _ n r h
    exact ⟨'-' :: l, rfl, hl⟩
  · next hminus =>
    obtain ⟨l, rfl, hl⟩ := readsFront_unsigned? false cs n r h
    have hpos := unsigned?_length h
    cases l with
    | nil => exact absurd hpos (Nat.lt_irrefl _)
    | cons d l =>
      refine ⟨d :: l, rfl, fun r' hr' => ?_⟩
      unfold read?
      split
      · next he =>
        cases he
        exact absurd rfl (hminus (l ++ r))
      · exact hl r' hr'

/-- A number begins with a digit or a minus. -/
theorem head_of_read? {c : Char} {cs r : List Char} {n : JsonNumber}
    (h : read? (c :: cs) = some (n, r)) : c = '-' ∨ isDigit c = true := by
  unfold read? at h
  split at h
  · next he => cases he; exact .inl rfl
  · obtain ⟨⟨ds, m⟩, hw, -⟩ := Option.bind_eq_some_iff.1 h
    unfold whole? at hw
    split at hw
    · next he => cases he; exact .inr rfl
    · obtain ⟨hcs, hne, hds, -⟩ := digits?_eq_some hw
      cases ds with
      | nil => contradiction
      | cons d ds =>
        cases hcs
        exact .inr (hds c List.mem_cons_self)

end JsonNumber

namespace JsonText

theorem read?_short {e c : Char} (h : shortEscapes.lookup e = some c) (r : List Char) :
    read? ('\\' :: e :: r) = (read? r).map fun p => (.char c :: p.1, p.2) := by
  have hu : e ≠ 'u' := by
    rintro rfl
    cases h
  cases hr : read? r <;> simp [read?, h, hu, hr]

/-- A character that stands for itself. -/
def isLiteral (c : Char) : Bool := c != '"' && c != '\\' && 0x20 ≤ c.toNat

theorem read?_literal {c : Char} (h : isLiteral c = true) (r : List Char) :
    read? (c :: r) = (read? r).map fun p => (.char c :: p.1, p.2) := by
  simp only [isLiteral, Bool.and_eq_true, bne_iff_ne, decide_eq_true_eq] at h
  obtain ⟨⟨hquote, hback⟩, hcontrol⟩ := h
  rw [read?]
  · exact if_neg (by simp [hback, Nat.not_lt.2 hcontrol])
  · exact hquote
  · rintro a b d e s rfl
    exact absurd rfl hback
  · rintro e s rfl
    exact absurd rfl hback

/-- A string ends at its closing quote, whatever comes then. -/
theorem readsFront_read? : ReadsFront read? := by
  have front : ∀ cs t r, read? cs = some (t, r) →
      ∃ l, cs = l ++ r ∧ ∀ r', read? (l ++ r') = some (t, r') := by
    intro cs t r h
    fun_induction read? cs generalizing t with
    | case1 => cases h
    | case2 s => cases h; exact ⟨['"'], rfl, fun _ => rfl⟩
    | case3 a b c d s u t' rest ht hu ih =>
      cases h
      obtain ⟨l, rfl, hl⟩ := ih t' ht
      refine ⟨'\\' :: 'u' :: a :: b :: c :: d :: l, rfl, fun r' => ?_⟩
      simp [read?, hu, hl r']
    | case4 => cases h
    | case5 e s hshort c t' rest ht hc ih =>
      cases h
      obtain ⟨l, rfl, hl⟩ := ih t' ht
      refine ⟨'\\' :: e :: l, rfl, fun r' => ?_⟩
      rw [List.cons_append, List.cons_append, read?_short hc, hl r']
      rfl
    | case6 => cases h
    | case7 => cases h
    | case8 c s hquote _ _ hplain ih =>
      obtain ⟨p, hp, he⟩ := Option.map_eq_some_iff.1 h
      cases he
      obtain ⟨l, rfl, hl⟩ := ih _ hp
      have hc : isLiteral c = true := by
        simp only [Bool.or_eq_true, not_or, decide_eq_true_eq, beq_iff_eq, Nat.not_lt] at hplain
        have hne : c ≠ '"' := hquote
        simp [isLiteral, hplain.1, hplain.2, hne]
      exact ⟨c :: l, rfl, fun r' => by rw [List.cons_append, read?_literal hc, hl r']; rfl⟩
  intro cs t r h
  obtain ⟨l, hcs, hl⟩ := front cs t r h
  exact ⟨l, hcs, fun r' _ => hl r'⟩

end JsonText

namespace JsonToken

theorem mem_of_lookup {c : Char} {t : JsonToken} (h : punctuation.lookup c = some t) :
    (c, t) ∈ punctuation := by
  obtain ⟨l, r, he, -⟩ := List.lookup_eq_some_iff.1 h
  rw [he]
  exact List.mem_append_right _ List.mem_cons_self

/-- The token at the front of a text. -/
def lex : List Char → Option (JsonToken × List Char)
  | [] => none
  | c :: r => next? c r

theorem word?_eq_some {cs r : List Char} {t : JsonToken} (h : word? cs = some (t, r)) :
    ∃ w, (w, t) ∈ words ∧ cs = w ++ r := by
  obtain ⟨w, hw, he⟩ := Option.map_eq_some_iff.1 h
  cases he
  have hp := List.find?_some hw
  obtain ⟨r, rfl⟩ := List.isPrefixOf_iff_prefix.1 hp
  exact ⟨w.1, List.mem_of_find?_eq_some hw, by simp⟩

theorem lex_word {w : List Char} {t : JsonToken} (h : (w, t) ∈ words) (r : List Char) :
    lex (w ++ r) = some (t, r) := by
  simp only [words, List.mem_cons, Prod.mk.injEq, List.not_mem_nil, or_false] at h
  rcases h with ⟨rfl, rfl⟩ | ⟨rfl, rfl⟩ | ⟨rfl, rfl⟩ <;> rfl

/-- No mark, string or word begins like a number. -/
theorem lex_number {c : Char} (h : c = '-' ∨ JsonNumber.isDigit c = true) (r : List Char) :
    lex (c :: r) = (JsonNumber.read? (c :: r)).map fun p => (.number p.1, p.2) := by
  have apart : ∀ d : Char, d ≠ '-' → JsonNumber.isDigit d = false → c ≠ d := by
    rintro d hminus hdigit rfl
    rcases h with rfl | hc
    · exact hminus rfl
    · rw [hdigit] at hc
      cases hc
  have hmark : punctuation.lookup c = none := by
    refine List.lookup_eq_none_iff.2 fun p hp => bne_iff_ne.2 ?_
    revert p
    simp only [punctuation, List.forall_mem_cons]
    refine ⟨?_, ?_, ?_, ?_, ?_, ?_, List.forall_mem_nil _⟩ <;> exact apart _ (by decide) (by decide)
  have hword : word? (c :: r) = none := by
    refine Option.map_eq_none_iff.2 (List.find?_eq_none.2 ?_)
    simp only [words, List.forall_mem_cons, List.isPrefixOf, Bool.and_eq_true, beq_iff_eq, not_and]
    refine ⟨?_, ?_, ?_, List.forall_mem_nil _⟩ <;>
      exact fun he => absurd he.symm (apart _ (by decide) (by decide))
  have hquote : (c == '"') = false := beq_eq_false_iff_ne.2 (apart '"' (by decide) (by decide))
  simp only [lex, next?, hmark, hquote, hword, Bool.false_eq_true, if_false]

theorem lex_punctuation {p : Char} {t : JsonToken} (h : (p, t) ∈ punctuation) (r : List Char) :
    lex (p :: r) = some (t, r) := by
  simp only [punctuation, List.mem_cons, Prod.mk.injEq, List.not_mem_nil, or_false] at h
  rcases h with ⟨rfl, rfl⟩ | ⟨rfl, rfl⟩ | ⟨rfl, rfl⟩ | ⟨rfl, rfl⟩ | ⟨rfl, rfl⟩ | ⟨rfl, rfl⟩ <;> rfl

theorem not_punctuation {p : Char} {t : JsonToken} (h : (p, t) ∈ punctuation) :
    (∀ s, t ≠ .text s) ∧ (∀ n, t ≠ .number n) ∧ ∀ w, (w, t) ∉ words := by
  simp only [punctuation, List.mem_cons, Prod.mk.injEq, List.not_mem_nil, or_false] at h
  rcases h with ⟨-, rfl⟩ | ⟨-, rfl⟩ | ⟨-, rfl⟩ | ⟨-, rfl⟩ | ⟨-, rfl⟩ | ⟨-, rfl⟩ <;>
    simp [words]

theorem lex_text (r : List Char) :
    lex ('"' :: r) = (JsonText.read? r).map fun p => (.text p.1, p.2) := rfl

/-- What a token is read from: a mark, a string, a word or a number. -/
theorem lex_cases {cs r : List Char} {t : JsonToken} (h : lex cs = some (t, r)) :
    (∃ p, (p, t) ∈ punctuation ∧ cs = p :: r) ∨
    (∃ s m, t = .text s ∧ cs = '"' :: m ∧ JsonText.read? m = some (s, r)) ∨
    (∃ w, (w, t) ∈ words ∧ cs = w ++ r) ∨
    (∃ n, t = .number n ∧ JsonNumber.read? cs = some (n, r)) := by
  cases cs with
  | nil => cases h
  | cons c cs =>
    cases hmark : punctuation.lookup c with
    | some t' =>
      simp only [lex, next?, hmark] at h
      cases h
      exact .inl ⟨c, mem_of_lookup hmark, rfl⟩
    | none =>
      by_cases hquote : (c == '"') = true
      · obtain rfl := beq_iff_eq.1 hquote
        obtain ⟨⟨s, m⟩, hs, he⟩ := Option.map_eq_some_iff.1 h
        cases he
        exact .inr (.inl ⟨s, cs, rfl, rfl, hs⟩)
      · cases hword : word? (c :: cs) with
        | some p =>
          simp only [lex, next?, hmark, hquote, hword] at h
          cases h
          exact .inr (.inr (.inl (word?_eq_some hword)))
        | none =>
          simp only [lex, next?, hmark, hquote, hword] at h
          obtain ⟨⟨n, m⟩, hn, he⟩ := Option.map_eq_some_iff.1 h
          cases he
          exact .inr (.inr (.inr ⟨n, rfl, hn⟩))

theorem readsFront_lex : ReadsFront lex := by
  intro cs t r h
  rcases lex_cases h with ⟨p, hp, rfl⟩ | ⟨s, m, rfl, rfl, hs⟩ | ⟨w, hw, rfl⟩ | ⟨n, rfl, hn⟩
  · exact ⟨[p], rfl, fun r' _ => lex_punctuation hp r'⟩
  · obtain ⟨l, rfl, hl⟩ := JsonText.readsFront_read? _ _ _ hs
    exact ⟨'"' :: l, rfl, fun r' hr' => by rw [List.cons_append, lex_text, hl r' hr']; rfl⟩
  · exact ⟨w, rfl, fun r' _ => lex_word hw r'⟩
  · obtain ⟨l, rfl, hl⟩ := JsonNumber.readsFront_read? _ _ _ hn
    cases l with
    | nil => exact absurd (JsonNumber.read?_length hn) (Nat.lt_irrefl _)
    | cons c l =>
      have hc := JsonNumber.head_of_read? hn
      refine ⟨c :: l, rfl, fun r' hr' => ?_⟩
      rw [List.cons_append, lex_number hc, ← List.cons_append, hl r' hr']
      rfl

/-- A mark is read from nothing but itself. -/
theorem eq_of_lex_punctuation {p : Char} {cs r : List Char} {t : JsonToken}
    (hp : (p, t) ∈ punctuation) (h : lex cs = some (t, r)) : cs = p :: r := by
  obtain ⟨htext, hnumber, hword⟩ := not_punctuation hp
  rcases lex_cases h with ⟨q, hq, rfl⟩ | ⟨s, m, rfl, -⟩ | ⟨w, hw, -⟩ | ⟨n, rfl, -⟩
  · have hunique : ∀ x ∈ punctuation, ∀ y ∈ punctuation, x.2 = y.2 → x.1 = y.1 := by decide
    have hpq : p = q := hunique _ hp _ hq rfl
    rw [hpq]
  · exact absurd rfl (htext s)
  · exact absurd hw (hword w)
  · exact absurd rfl (hnumber n)

theorem lex_blank {c : Char} (h : isBlank c = true) (r : List Char) : lex (c :: r) = none := by
  simp only [isBlank, Bool.or_eq_true, beq_iff_eq] at h
  rcases h with ((rfl | rfl) | rfl) | rfl <;> rfl

theorem ofChars?_nil : ofChars? [] = some [] := by
  rw [ofChars?]

theorem ofChars?_lex {cs r : List Char} {t : JsonToken} (h : lex cs = some (t, r)) :
    ofChars? cs = (ofChars? r).map (t :: ·) := by
  cases cs with
  | nil => cases h
  | cons c cs =>
    have hb : ¬ isBlank c = true := fun hb => by
      rw [lex_blank hb] at h
      cases h
    rw [ofChars?, if_neg hb]
    split
    · next hn =>
      rw [show next? c cs = lex (c :: cs) from rfl, h] at hn
      cases hn
    · next t' rest hn =>
      rw [show next? c cs = lex (c :: cs) from rfl, h] at hn
      cases hn
      rfl

/-- A token takes something from the text. -/
theorem ne_nil_of_lex {l r : List Char} {t : JsonToken} (h : lex (l ++ r) = some (t, r)) :
    l ≠ [] := by
  rintro rfl
  cases r with
  | nil => cases h
  | cons c r => exact absurd (next?_length h) (Nat.lt_irrefl _)

theorem endsNumber_blank {c : Char} (h : isBlank c = true) (r : List Char) :
    EndsNumber (c :: r) := by
  rintro d hd
  cases hd
  simp only [isBlank, Bool.or_eq_true, beq_iff_eq] at h
  rcases h with ((rfl | rfl) | rfl) | rfl <;> rfl

/-- Two texts can be joined where a number at the end of the first one does not run on. -/
theorem ofChars?_append {cs r : List Char} {ts : List JsonToken} (h : ofChars? cs = some ts)
    (hr : EndsNumber r) : ofChars? (cs ++ r) = (ofChars? r).map (ts ++ ·) := by
  fun_induction ofChars? cs generalizing ts with
  | case1 => cases h; simp
  | case2 c s hb ih => rw [List.cons_append, ofChars?_blank _ hb, ih h]
  | case3 => cases h
  | case4 c s hb t m hn ih =>
    obtain ⟨us, hus, rfl⟩ := Option.map_eq_some_iff.1 h
    obtain ⟨l, hcs, hl⟩ := readsFront_lex (c :: s) t m hn
    rw [hcs, List.append_assoc, ofChars?_lex (hl _ (.append_ends hr m)), ih hus]
    cases ofChars? r <;> rfl

/-- A text can be cut where its tokens can. -/
theorem ofChars?_split {cs : List Char} (ts us : List JsonToken)
    (h : ofChars? cs = some (ts ++ us)) :
    ∃ l r, cs = l ++ r ∧ ofChars? l = some ts ∧ ofChars? r = some us := by
  fun_induction ofChars? cs generalizing ts with
  | case1 =>
    obtain ⟨rfl, rfl⟩ : ts = [] ∧ us = [] := by simpa using h
    exact ⟨[], [], rfl, ofChars?_nil, ofChars?_nil⟩
  | case2 c s hb ih =>
    obtain ⟨l, r, rfl, hl, hr⟩ := ih ts h
    exact ⟨c :: l, r, rfl, (ofChars?_blank l hb).trans hl, hr⟩
  | case3 => cases h
  | case4 c s hb t m hn ih =>
    obtain ⟨vs, hvs, he⟩ := Option.map_eq_some_iff.1 h
    have hlex : lex (c :: s) = some (t, m) := hn
    cases ts with
    | nil =>
      cases he
      exact ⟨[], c :: s, rfl, ofChars?_nil, by rw [ofChars?_lex hlex, hvs]; rfl⟩
    | cons t' ts =>
      cases he
      obtain ⟨l, r, rfl, hl, hr⟩ := ih ts hvs
      obtain ⟨k, hcs, hk⟩ := readsFront_lex (c :: s) t (l ++ r) hlex
      refine ⟨k ++ l, r, by rw [hcs, List.append_assoc], ?_, hr⟩
      rw [ofChars?_lex (hk l (.front l r)), hl]
      rfl

end JsonToken

/-- A second text is the first one with blanks put in before, between or behind its tokens. -/
inductive Respaced : List Char → List Char → Prop where
  | same (cs : List Char) : Respaced cs cs
  | insert {c : Char} {cs cs' : List Char} :
      JsonToken.isBlank c = true → Respaced cs cs' → Respaced cs (c :: cs')
  | blank {c : Char} {cs cs' : List Char} :
      JsonToken.isBlank c = true → Respaced cs cs' → Respaced (c :: cs) (c :: cs')
  | token {l r r' : List Char} {t : JsonToken} :
      JsonToken.lex (l ++ r) = some (t, r) → Respaced r r' → Respaced (l ++ r) (l ++ r')

namespace Respaced

open JsonToken

variable {cs cs' : List Char}

theorem standsFor (h : Respaced cs cs') : StandsFor cs' cs := by
  cases h with
  | same => exact .inl rfl
  | insert hb => exact .inr (endsNumber_blank hb _)
  | blank hb => exact .inl rfl
  | token hlex =>
    obtain ⟨c, l, rfl⟩ := List.exists_cons_of_ne_nil (ne_nil_of_lex hlex)
    exact .inl rfl

theorem lex_token {l r r' : List Char} {t : JsonToken} (hlex : lex (l ++ r) = some (t, r))
    (h : Respaced r r') : lex (l ++ r') = some (t, r') := by
  obtain ⟨k, hcs, hk⟩ := readsFront_lex _ _ _ hlex
  obtain rfl : l = k := List.append_cancel_right hcs
  exact hk r' h.standsFor

/-- Blanks between tokens mean nothing. -/
theorem ofChars?_eq (h : Respaced cs cs') : ofChars? cs' = ofChars? cs := by
  induction h with
  | same => rfl
  | insert hb _ ih => rw [ofChars?_blank _ hb, ih]
  | blank hb _ ih => rw [ofChars?_blank _ hb, ofChars?_blank _ hb, ih]
  | token hlex hr ih => rw [ofChars?_lex hlex, ofChars?_lex (lex_token hlex hr), ih]

theorem blanks {b : List Char} (hb : ofChars? b = some []) (h : Respaced cs cs') :
    Respaced cs (b ++ cs') := by
  fun_induction ofChars? b with
  | case1 => exact h
  | case2 c r hc ih => exact .insert hc (ih hb)
  | case3 => cases hb
  | case4 c r hc t m hn ih =>
    obtain ⟨us, -, he⟩ := Option.map_eq_some_iff.1 hb
    cases he

theorem mark {p : Char} {t : JsonToken} {b : List Char} (hp : (p, t) ∈ punctuation)
    (hb : ofChars? b = some [t]) (h : Respaced cs cs') : Respaced (p :: cs) (b ++ cs') := by
  fun_induction ofChars? b with
  | case1 => cases hb
  | case2 c r hc ih => exact .insert hc (ih hb)
  | case3 => cases hb
  | case4 c r hc t' m hn ih =>
    obtain ⟨us, hus, he⟩ := Option.map_eq_some_iff.1 hb
    cases he
    rw [eq_of_lex_punctuation hp (show lex (c :: r) = some (t, m) from hn)]
    exact .token (l := [p]) (lex_punctuation hp cs) (blanks hus h)

theorem append {a : List Char} {ts : List JsonToken} (ha : ofChars? a = some ts)
    (hcs : EndsNumber cs) (h : Respaced cs cs') : Respaced (a ++ cs) (a ++ cs') := by
  fun_induction ofChars? a generalizing ts with
  | case1 => exact h
  | case2 c r hc ih => exact .blank hc (ih ha)
  | case3 => cases ha
  | case4 c r hc t m hn ih =>
    obtain ⟨us, hus, he⟩ := Option.map_eq_some_iff.1 ha
    obtain ⟨l, hcs', hl⟩ := readsFront_lex (c :: r) t m hn
    rw [hcs', List.append_assoc, List.append_assoc]
    exact .token (hl _ (.append_ends hcs m)) (ih hus)

end Respaced

end DesktopHost
