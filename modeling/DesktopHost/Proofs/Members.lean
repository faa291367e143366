import DesktopHost.Proofs.Written

/-!
Objects by the texts of their members. The members of an object can be read one at a time, so that
its text can be taken apart and put together again in another order or with others among them.
-/

set_option autoImplicit false

namespace DesktopHost

namespace JsonValue

section Cases

variable {fuel : Nat} {ts r : List JsonToken}

/-- What a value is read from. -/
theorem value?_cases {v : JsonValue} (h : value? (fuel + 1) ts = some (v, r)) :
    (∃ t, ts = t :: r ∧ ∀ fuel' r', value? (fuel' + 1) (t :: r') = some (v, r')) ∨
    (ts = .openList :: .closeList :: r ∧ v = .list []) ∨
    (∃ m vs, ts = .openList :: m ∧ items? fuel m = some (vs, r) ∧ v = .list vs) ∨
    (ts = .openObject :: .closeObject :: r ∧ v = .object []) ∨
    (∃ m es, ts = .openObject :: m ∧ members? fuel m = some (es, r) ∧ v = .object es) := by
  unfold value? at h
  split at h
  case h_1 m => cases h; exact .inl ⟨_, rfl, fun _ _ => by rw [value?]⟩
  case h_2 b m => cases h; exact .inl ⟨_, rfl, fun _ _ => by rw [value?]⟩
  case h_3 n m => cases h; exact .inl ⟨_, rfl, fun _ _ => by rw [value?]⟩
  case h_4 t m => cases h; exact .inl ⟨_, rfl, fun _ _ => by rw [value?]⟩
  case h_5 m => cases h; exact .inr (.inl ⟨rfl, rfl⟩)
  case h_6 m hm =>
    obtain ⟨⟨vs, m'⟩, hvs, he⟩ := Option.map_eq_some_iff.1 h
    cases he
    exact .inr (.inr (.inl ⟨m, vs, rfl, hvs, rfl⟩))
  case h_7 m => cases h; exact .inr (.inr (.inr (.inl ⟨rfl, rfl⟩)))
  case h_8 m hm =>
    obtain ⟨⟨es, m'⟩, hes, he⟩ := Option.map_eq_some_iff.1 h
    cases he
    exact .inr (.inr (.inr (.inr ⟨m, es, rfl, hes, rfl⟩)))
  case h_9 => cases h

theorem items?_cases {vs : List JsonValue} (h : items? (fuel + 1) ts = some (vs, r)) :
    (∃ v, value? fuel ts = some (v, .closeList :: r) ∧ vs = [v]) ∨
    ∃ v m ws, value? fuel ts = some (v, .comma :: m) ∧ items? fuel m = some (ws, r) ∧
      vs = v :: ws := by
  unfold items? at h
  split at h
  case h_1 v m hv => cases h; exact .inl ⟨v, hv, rfl⟩
  case h_2 v m hv =>
    obtain ⟨⟨ws, m'⟩, hws, he⟩ := Option.map_eq_some_iff.1 h
    cases he
    exact .inr ⟨v, m, ws, hv, hws, rfl⟩
  case h_3 => cases h

theorem members?_cases {es : List (JsonText × JsonValue)}
    (h : members? (fuel + 1) ts = some (es, r)) :
    ∃ k v m, ts = .text k :: .colon :: m ∧
      (value? fuel m = some (v, .closeObject :: r) ∧ es = [(k, v)] ∨
        ∃ m' fs, value? fuel m = some (v, .comma :: m') ∧ members? fuel m' = some (fs, r) ∧
          es = (k, v) :: fs) := by
  unfold members? at h
  split at h
  case h_1 k m =>
    split at h
    case h_1 v m' hv => cases h; exact ⟨k, v, m, rfl, .inl ⟨hv, rfl⟩⟩
    case h_2 v m' hv =>
      obtain ⟨⟨fs, m''⟩, hfs, he⟩ := Option.map_eq_some_iff.1 h
      cases he
      exact ⟨k, v, m, rfl, .inr ⟨m', fs, hv, hfs, rfl⟩⟩
    case h_3 => cases h
  case h_2 => cases h

theorem items?_last {v : JsonValue} (h : value? fuel ts = some (v, .closeList :: r)) :
    items? (fuel + 1) ts = some ([v], r) := by
  rw [items?, h]

theorem items?_more {v : JsonValue} {m : List JsonToken} {vs : List JsonValue}
    (hv : value? fuel ts = some (v, .comma :: m)) (hvs : items? fuel m = some (vs, r)) :
    items? (fuel + 1) ts = some (v :: vs, r) := by
  rw [items?, hv]
  exact congrArg (Option.map _) hvs

theorem members?_last {k : JsonText} {v : JsonValue}
    (h : value? fuel ts = some (v, .closeObject :: r)) :
    members? (fuel + 1) (.text k :: .colon :: ts) = some ([(k, v)], r) := by
  simp only [members?, h]

theorem members?_more {k : JsonText} {v : JsonValue} {m : List JsonToken}
    {es : List (JsonText × JsonValue)} (hv : value? fuel ts = some (v, .comma :: m))
    (hes : members? fuel m = some (es, r)) :
    members? (fuel + 1) (.text k :: .colon :: ts) = some ((k, v) :: es, r) := by
  simp only [members?, hv, hes, Option.map_some]

theorem value?_openList {vs : List JsonValue} (h : items? fuel ts = some (vs, r)) :
    value? (fuel + 1) (.openList :: ts) = some (.list vs, r) := by
  have hclose : ∀ m, ts ≠ .closeList :: m := by
    rintro m rfl
    cases fuel with
    | zero => simp [items?] at h
    | succ fuel => cases fuel <;> simp [items?, value?] at h
  rw [value?, h]
  · rfl
  · exact hclose

theorem value?_openObject {es : List (JsonText × JsonValue)}
    (h : members? fuel ts = some (es, r)) :
    value? (fuel + 1) (.openObject :: ts) = some (.object es, r) := by
  have hclose : ∀ m, ts ≠ .closeObject :: m := by
    rintro m rfl
    cases fuel <;> simp [members?] at h
  rw [value?, h]
  · rfl
  · exact hclose

end Cases

/-- A reader of tokens that takes a front part, whatever comes then, with two steps of fuel for
every token. -/
def TakesFront {α : Type} (read : Nat → List JsonToken → Option (α × List JsonToken))
    (fuel : Nat) : Prop :=
  ∀ ts a r, read fuel ts = some (a, r) →
    ∃ l, ts = l ++ r ∧
      ∀ fuel' r', 2 * l.length ≤ fuel' → read fuel' (l ++ r') = some (a, r')

variable {fuel : Nat}

theorem takesFront_value (hitems : TakesFront items? fuel)
    (hmembers : TakesFront members? fuel) : TakesFront value? (fuel + 1) := by
  intro ts v r h
  rcases value?_cases h with ⟨t, rfl, ht⟩ | ⟨rfl, rfl⟩ | ⟨m, vs, rfl, hvs, rfl⟩ | ⟨rfl, rfl⟩ |
    ⟨m, es, rfl, hes, rfl⟩
  · refine ⟨[t], rfl, fun fuel' r' hle => ?_⟩
    obtain ⟨f, rfl⟩ := Nat.exists_eq_add_of_lt (show 0 < fuel' by simp at hle; omega)
    simpa using ht _ r'
  · refine ⟨[.openList, .closeList], rfl, fun fuel' r' hle => ?_⟩
    obtain ⟨f, rfl⟩ := Nat.exists_eq_add_of_lt (show 0 < fuel' by simp at hle; omega)
    simp [value?]
  · obtain ⟨l, rfl, hl⟩ := hitems m vs r hvs
    refine ⟨.openList :: l, rfl, fun fuel' r' hle => ?_⟩
    simp only [List.length_cons] at hle
    obtain ⟨f, rfl⟩ := Nat.exists_eq_add_of_lt (show 0 < fuel' by omega)
    exact value?_openList (hl _ r' (by omega))
  · refine ⟨[.openObject, .closeObject], rfl, fun fuel' r' hle => ?_⟩
    obtain ⟨f, rfl⟩ := Nat.exists_eq_add_of_lt (show 0 < fuel' by simp at hle; omega)
    simp [value?]
  · obtain ⟨l, rfl, hl⟩ := hmembers m es r hes
    refine ⟨.openObject :: l, rfl, fun fuel' r' hle => ?_⟩
    simp only [List.length_cons] at hle
    obtain ⟨f, rfl⟩ := Nat.exists_eq_add_of_lt (show 0 < fuel' by omega)
    exact value?_openObject (hl _ r' (by omega))

theorem takesFront_items (hvalue : TakesFront value? fuel) (hitems : TakesFront items? fuel) :
    TakesFront items? (fuel + 1) := by
  intro ts vs r h
  rcases items?_cases h with ⟨v, hv, rfl⟩ | ⟨v, m, ws, hv, hws, rfl⟩
  · obtain ⟨l, rfl, hl⟩ := hvalue ts v _ hv
    refine ⟨l ++ [.closeList], by simp, fun fuel' r' hle => ?_⟩
    rw [List.length_append, List.length_singleton] at hle
    obtain ⟨f, rfl⟩ := Nat.exists_eq_add_of_lt (show 0 < fuel' by omega)
    rw [List.append_assoc]
    exact items?_last (hl _ _ (by omega))
  · obtain ⟨l, rfl, hl⟩ := hvalue ts v _ hv
    obtain ⟨k, rfl, hk⟩ := hitems m ws r hws
    refine ⟨l ++ .comma :: k, by simp, fun fuel' r' hle => ?_⟩
    rw [List.length_append, List.length_cons] at hle
    obtain ⟨f, rfl⟩ := Nat.exists_eq_add_of_lt (show 0 < fuel' by omega)
    rw [List.append_assoc]
    exact items?_more (hl _ _ (by omega)) (hk _ r' (by omega))

theorem takesFront_members (hvalue : TakesFront value? fuel)
    (hmembers : TakesFront members? fuel) : TakesFront members? (fuel + 1) := by
  intro ts es r h
  obtain ⟨k, v, m, rfl, ⟨hv, rfl⟩ | ⟨m', fs, hv, hfs, rfl⟩⟩ := members?_cases h
  · obtain ⟨l, rfl, hl⟩ := hvalue m v _ hv
    refine ⟨.text k :: .colon :: (l ++ [.closeObject]), by simp, fun fuel' r' hle => ?_⟩
    rw [List.length_cons, List.length_cons, List.length_append] at hle
    obtain ⟨f, rfl⟩ := Nat.exists_eq_add_of_lt (show 0 < fuel' by omega)
    rw [List.cons_append, List.cons_append, List.append_assoc]
    exact members?_last (hl _ _ (by omega))
  · obtain ⟨l, rfl, hl⟩ := hvalue m v _ hv
    obtain ⟨n, rfl, hn⟩ := hmembers m' fs r hfs
    refine ⟨.text k :: .colon :: (l ++ .comma :: n), by simp, fun fuel' r' hle => ?_⟩
    rw [List.length_cons, List.length_cons, List.length_append, List.length_cons] at hle
    obtain ⟨f, rfl⟩ := Nat.exists_eq_add_of_lt (show 0 < fuel' by omega)
    rw [List.cons_append, List.cons_append, List.append_assoc]
    exact members?_more (hl _ _ (by omega)) (hn _ r' (by omega))

theorem takesFront (fuel : Nat) :
    TakesFront value? fuel ∧ TakesFront items? fuel ∧ TakesFront members? fuel := by
  -- the readers call each other with less fuel, so all three go through one induction
  induction fuel with
  | zero =>
    refine ⟨fun ts v r h => ?_, fun ts vs r h => ?_, fun ts es r h => ?_⟩
    · simp [value?] at h
    · simp [items?] at h
    · simp [members?] at h
  | succ fuel ih =>
    obtain ⟨hvalue, hitems, hmembers⟩ := ih
    exact ⟨takesFront_value hitems hmembers, takesFront_items hvalue hitems,
      takesFront_members hvalue hmembers⟩

/-- A value makes up the tokens it is read from. -/
theorem ofTokens?_front {ts r : List JsonToken} {v : JsonValue}
    (h : value? fuel ts = some (v, r)) :
    ∃ l, ts = l ++ r ∧ ofTokens? l = some v := by
  obtain ⟨l, rfl, hl⟩ := (takesFront fuel).1 ts v r h
  have hread := hl (2 * l.length + 2) [] (by omega)
  rw [List.append_nil] at hread
  exact ⟨l, rfl, by rw [ofTokens?, hread]⟩

theorem value?_of_ofTokens? {ts r : List JsonToken} {v : JsonValue}
    (h : ofTokens? ts = some v) (hfuel : 2 * ts.length ≤ fuel) :
    value? fuel (ts ++ r) = some (v, r) := by
  unfold ofTokens? at h
  split at h
  · next w hw =>
    cases h
    obtain ⟨l, hts, hl⟩ := (takesFront _).1 ts v [] hw
    obtain rfl : ts = l := by simpa using hts
    exact hl fuel r hfuel
  · cases h

end JsonValue

open JsonToken JsonValue

/-- What a text reads as that is one member of an object. -/
def member? (cs : List Char) : Option (JsonText × JsonValue) :=
  match ofChars? cs with
  | some (.text k :: .colon :: ts) => (ofTokens? ts).map fun v => (k, v)
  | _ => none

theorem member?_eq_some {cs : List Char} {k : JsonText} {v : JsonValue} :
    member? cs = some (k, v) ↔
      ∃ ts, ofChars? cs = some (.text k :: .colon :: ts) ∧ ofTokens? ts = some v := by
  constructor
  · intro h
    unfold member? at h
    split at h
    · next k' ts hcs =>
      obtain ⟨v', hv, he⟩ := Option.map_eq_some_iff.1 h
      cases he
      exact ⟨ts, hcs, hv⟩
    · cases h
  · rintro ⟨ts, hcs, hv⟩
    simp only [member?, hcs, hv, Option.map_some]

theorem member?_of_lex {cs r r' : List Char} {k : JsonText} {v : JsonValue}
    (hkey : lex cs = some (.text k, r)) (hcolon : lex r = some (.colon, r'))
    (hvalue : JsonValue.read? r' = some v) : member? cs = some (k, v) := by
  obtain ⟨ts, hts, hread⟩ := Option.bind_eq_some_iff.1 hvalue
  refine member?_eq_some.2 ⟨ts, ?_, hread⟩
  rw [ofChars?_lex hkey, ofChars?_lex hcolon, hts]
  rfl

/-- The text of one member, with what it reads as. -/
structure MemberText where
  chars : List Char
  key : JsonText
  value : JsonValue
  reads : member? chars = some (key, value)

namespace MemberText

def entry (m : MemberText) : JsonText × JsonValue := (m.key, m.value)

/-- The members behind an opening brace, and the closing brace. -/
def inside : List MemberText → List Char
  | [] => ['\x7d']
  | [m] => m.chars ++ ['\x7d']
  | m :: n :: ms => m.chars ++ ',' :: inside (n :: ms)

/-- The text of an object, member by member. -/
def object (ms : List MemberText) : List Char := '\x7b' :: inside ms

theorem ofChars?_inside (m : MemberText) (ms : List MemberText) :
    ∃ ts, ofChars? (inside (m :: ms)) = some ts ∧
      ∀ fuel, 2 * ts.length ≤ fuel → members? fuel ts = some ((m :: ms).map entry, []) := by
  induction ms generalizing m with
  | nil =>
    obtain ⟨ts, hts, hv⟩ := member?_eq_some.1 m.reads
    refine ⟨.text m.key :: .colon :: (ts ++ [.closeObject]), ?_, fun fuel hle => ?_⟩
    · rw [inside, ofChars?_append hts (by rintro c ⟨⟩; rfl),
        ofChars?_lex (lex_punctuation (t := .closeObject) (by decide) []), ofChars?_nil]
      rfl
    · simp only [List.length_cons, List.length_append] at hle
      obtain ⟨f, rfl⟩ := Nat.exists_eq_add_of_lt (show 0 < fuel by omega)
      exact members?_last (value?_of_ofTokens? hv (by omega))
  | cons n ms ih =>
    obtain ⟨ts, hts, hv⟩ := member?_eq_some.1 m.reads
    obtain ⟨us, hus, hmembers⟩ := ih n
    refine ⟨.text m.key :: .colon :: (ts ++ .comma :: us), ?_, fun fuel hle => ?_⟩
    · rw [inside, ofChars?_append hts (by rintro c ⟨⟩; rfl),
        ofChars?_lex (lex_punctuation (t := .comma) (by decide) _), hus]
      rfl
    · simp only [List.length_cons, List.length_append] at hle
      obtain ⟨f, rfl⟩ := Nat.exists_eq_add_of_lt (show 0 < fuel by omega)
      exact members?_more (value?_of_ofTokens? hv (by omega)) (hmembers _ (by omega))

/-- An object is read member by member. -/
theorem read?_object (ms : List MemberText) :
    JsonValue.read? (object ms) = some (.object (ms.map entry)) := by
  have hopen (cs : List Char) : ofChars? ('\x7b' :: cs) = (ofChars? cs).map (.openObject :: ·) :=
    ofChars?_lex (lex_punctuation (by decide) cs)
  cases ms with
  | nil =>
    have hclose : ofChars? ['\x7d'] = some [.closeObject] := by
      rw [ofChars?_lex (lex_punctuation (t := .closeObject) (by decide) []), ofChars?_nil]
      rfl
    rw [JsonValue.read?, object, inside, hopen, hclose]
    rfl
  | cons m ms =>
    obtain ⟨ts, hts, hmembers⟩ := ofChars?_inside m ms
    have hvalue := value?_openObject (hmembers (2 * ts.length + 3) (by omega))
    rw [JsonValue.read?, object, hopen, hts]
    simp only [Option.map_some, Option.bind_some, ofTokens?, List.length_cons]
    rw [show 2 * (ts.length + 1) + 2 = 2 * ts.length + 3 + 1 by omega, hvalue]

theorem exists_inside {fuel : Nat} {cs : List Char} {ts : List JsonToken}
    {es : List (JsonText × JsonValue)} (hcs : ofChars? cs = some ts)
    (hts : members? fuel ts = some (es, [])) :
    ∃ m ms, (m :: ms).map entry = es ∧ Respaced (inside (m :: ms)) cs := by
  induction fuel generalizing cs ts es with
  | zero => simp [members?] at hts
  | succ fuel ih =>
    obtain ⟨k, v, m, rfl, ⟨hv, rfl⟩ | ⟨m', fs, hv, hfs, rfl⟩⟩ := members?_cases hts
    · obtain ⟨l, rfl, hl⟩ := ofTokens?_front hv
      obtain ⟨a, b, rfl, ha, hb⟩ :=
        ofChars?_split (.text k :: .colon :: l) [.closeObject] hcs
      refine ⟨⟨a, k, v, member?_eq_some.2 ⟨l, ha, hl⟩⟩, [], rfl, ?_⟩
      have hclose := Respaced.mark (p := '\x7d') (by decide) hb (.same [])
      rw [List.append_nil] at hclose
      exact .append ha (by rintro c ⟨⟩; rfl) hclose
    · obtain ⟨l, rfl, hl⟩ := ofTokens?_front hv
      obtain ⟨a, b, rfl, ha, hb⟩ :=
        ofChars?_split (.text k :: .colon :: l) (.comma :: m') hcs
      obtain ⟨c, d, rfl, hc, hd⟩ := ofChars?_split [.comma] m' hb
      obtain ⟨n, ms, rfl, hrest⟩ := ih hd hfs
      refine ⟨⟨a, k, v, member?_eq_some.2 ⟨l, ha, hl⟩⟩, n :: ms, rfl, ?_⟩
      exact .append ha (by rintro c ⟨⟩; rfl) (.mark (p := ',') (by decide) hc hrest)

/-- The text of any object is the texts of its members between braces and commas, with blanks. -/
theorem exists_members {cs : List Char} {es : List (JsonText × JsonValue)}
    (h : JsonValue.read? cs = some (.object es)) :
    ∃ ms, ms.map entry = es ∧ Respaced (object ms) cs := by
  obtain ⟨ts, hts, hread⟩ := Option.bind_eq_some_iff.1 h
  unfold ofTokens? at hread
  split at hread
  · next w hw =>
    cases hread
    rcases value?_cases hw with ⟨t, rfl, ht⟩ | ⟨-, he⟩ | ⟨m, vs, -, -, he⟩ | ⟨rfl, he⟩ |
      ⟨m, fs, rfl, hfs, he⟩
    · -- no token by itself is an object
      have hone := ht 0 []
      cases t <;> simp [value?, items?, members?] at hone
    · cases he
    · cases he
    · cases he
      obtain ⟨a, b, rfl, ha, hb⟩ := ofChars?_split [.openObject] [.closeObject] hts
      have hclose := Respaced.mark (p := '\x7d') (by decide) hb (.same [])
      rw [List.append_nil] at hclose
      exact ⟨[], rfl, .mark (by decide) ha hclose⟩
    · cases he
      obtain ⟨a, b, rfl, ha, hb⟩ := ofChars?_split [.openObject] m hts
      obtain ⟨n, ms, hes, hinside⟩ := exists_inside hb hfs
      exact ⟨n :: ms, hes, .mark (by decide) ha hinside⟩
  · cases hread

end MemberText

namespace JsonValue

/-- A value that is read as it is written. -/
def ReadsBack (v : JsonValue) : Prop := read? v.chars = some v

theorem readsBack_token {v : JsonValue} {t : JsonToken} (hv : v.tokens = [t])
    (ht : ofTokens? [t] = some v) (hlex : lex (t.chars ++ []) = some (t, [])) : ReadsBack v := by
  have hchars : v.chars = t.chars ++ [] := by
    rw [chars, hv, List.flatMap_singleton, List.append_nil]
  rw [ReadsBack, read?, hchars, ofChars?_lex hlex, ofChars?_nil]
  exact ht

theorem readsBack_null : ReadsBack .null := readsBack_token rfl rfl rfl

theorem readsBack_ofInt (i : Int) : ReadsBack (.number (.ofInt i)) :=
  readsBack_token rfl rfl (lex_ofInt i nofun)

theorem readsBack_text {t : JsonText} (h : t.AllLiteral) : ReadsBack (.text t) :=
  readsBack_token rfl rfl (lex_literal h [])

end JsonValue

namespace MemberText

/-- Written without blanks. -/
def IsCompact (m : MemberText) : Prop := m.chars = JsonText.chars m.key ++ ':' :: m.value.chars

theorem exists_compact {k : JsonText} {v : JsonValue} (hk : k.AllLiteral) (hv : v.ReadsBack) :
    ∃ m : MemberText, m.entry = (k, v) ∧ m.IsCompact := by
  have hcolon : lex (':' :: v.chars) = some (.colon, v.chars) := lex_punctuation (by decide) _
  exact ⟨⟨JsonText.chars k ++ ':' :: v.chars, k, v,
    member?_of_lex (lex_literal hk _) hcolon hv⟩, rfl, rfl⟩

theorem chars_memberTokens {m : MemberText} {ms : List MemberText}
    (h : ∀ n ∈ m :: ms, n.IsCompact) :
    (memberTokens ((m :: ms).map entry)).flatMap JsonToken.chars ++ ['\x7d'] =
      inside (m :: ms) := by
  induction ms generalizing m with
  | nil =>
    have hm : m.chars = _ := h m List.mem_cons_self
    simp [memberTokens, entry, inside, JsonToken.chars, JsonValue.chars, hm]
  | cons n ms ih =>
    obtain ⟨hm, hms⟩ := List.forall_mem_cons.1 h
    have hm : m.chars = _ := hm
    have hinside := ih hms
    simp only [List.map_cons] at hinside ⊢
    simp [memberTokens, entry, inside, JsonToken.chars, JsonValue.chars, hm, ← hinside]

/-- An object is written member by member. -/
theorem chars_object {ms : List MemberText} (h : ∀ m ∈ ms, m.IsCompact) :
    (JsonValue.object (ms.map entry)).chars = object ms := by
  cases ms with
  | nil => rfl
  | cons m ms =>
    rw [object, ← chars_memberTokens h]
    simp [JsonValue.chars, tokens, JsonToken.chars]

end MemberText

theorem JsonValue.readsBack_object {es : List (JsonText × JsonValue)}
    (h : ∀ e ∈ es, e.1.AllLiteral ∧ e.2.ReadsBack) : ReadsBack (.object es) := by
  have hms : ∃ ms : List MemberText, ms.map MemberText.entry = es ∧ ∀ m ∈ ms, m.IsCompact := by
    induction es with
    | nil => exact ⟨[], rfl, nofun⟩
    | cons e es ih =>
      obtain ⟨⟨hk, hv⟩, hes⟩ := List.forall_mem_cons.1 h
      obtain ⟨m, hm, hcompact⟩ := MemberText.exists_compact hk hv
      obtain ⟨ms, rfl, hms⟩ := ih hes
      refine ⟨m :: ms, ?_, List.forall_mem_cons.2 ⟨hcompact, hms⟩⟩
      rw [List.map_cons, hm]
  obtain ⟨ms, rfl, hcompact⟩ := hms
  rw [ReadsBack, MemberText.chars_object hcompact, MemberText.read?_object]

end DesktopHost
