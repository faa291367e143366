import DesktopHost.Serial
import DesktopHost.Proofs.Members

/-!
The values that are shared with other programs survive their written form, and the readers of
objects go by the members they know, wherever those stand and whatever else is there.
-/

set_option autoImplicit false

namespace DesktopHost

open Serial JsonValue

namespace Serial

section Codec

variable {α : Type} (toJson : α → JsonValue) (ofJson? : JsonValue → Option α)

/-- The text of the value that a text is read as. -/
def reprint? (text : String) : Option String :=
  (decode? ofJson? text).map fun a => (toJson a).print

/-- Values of a kind are read from what is written for them. What is written for a text that was
read is read as the same value and written as itself. -/
structure Faithful (fits : α → Prop) : Prop where
  written : ∀ a, fits a → decode? ofJson? (toJson a).print = some a
  settled : ∀ text out, reprint? toJson ofJson? text = some out →
    decode? ofJson? out = decode? ofJson? text ∧ reprint? toJson ofJson? out = some out

variable {toJson ofJson?}

theorem Faithful.of_values {fits : α → Prop} (hback : ∀ a, (toJson a).ReadsBack)
    (hread : ∀ a, fits a → ofJson? (toJson a) = some a)
    (hfits : ∀ v a, ofJson? v = some a → fits a) : Faithful toJson ofJson? fits := by
  have hwritten : ∀ a, fits a → decode? ofJson? (toJson a).print = some a := by
    intro a ha
    have hback : JsonValue.read? (toJson a).chars = some (toJson a) := hback a
    rw [decode?, JsonValue.print, String.toList_ofList, hback]
    exact hread a ha
  refine ⟨hwritten, fun text out h => ?_⟩
  obtain ⟨a, ha, rfl⟩ := Option.map_eq_some_iff.1 h
  obtain ⟨v, -, hv⟩ := Option.bind_eq_some_iff.1 ha
  have hagain := hwritten a (hfits v a hv)
  exact ⟨hagain.trans ha.symm, by rw [reprint?, hagain]; rfl⟩

end Codec

section Named

variable {α : Type} {all : List α} {name : α → String}

/-- A kind whose names are told apart and need no escapes is read by them. -/
theorem faithful_named (hliteral : ∀ a, (name a).toList.all JsonText.isLiteral = true)
    (hfind : ∀ a, find? all name (key (name a)) = some a) :
    Faithful (named name) (named? all name) fun _ => True :=
  .of_values (fun a => readsBack_text (JsonText.allLiteral_ofString (hliteral a)))
    (fun a _ => hfind a) fun _ _ _ => trivial

end Named

end Serial

theorem LifecycleState.faithful :
    Faithful LifecycleState.toJson LifecycleState.ofJson? fun _ => True :=
  faithful_named (by rintro ⟨⟩ <;> decide) (by rintro ⟨⟩ <;> decide)

theorem RunMode.faithful : Faithful RunMode.toJson RunMode.ofJson? fun _ => True :=
  faithful_named (by rintro ⟨⟩ <;> decide) (by rintro ⟨⟩ <;> decide)

theorem TerminationSignal.faithful :
    Faithful TerminationSignal.toJson TerminationSignal.ofJson? fun _ => True :=
  faithful_named (by rintro ⟨⟩ <;> decide) (by rintro ⟨⟩ <;> decide)

namespace Serial

theorem integer?_ofInt {lo hi i : Int} (h : lo ≤ i ∧ i ≤ hi) :
    integer? lo hi (.number (.ofInt i)) = some i := by
  simp only [integer?, JsonNumber.integer?_ofInt, if_pos h]

theorem integer?_bounds {lo hi i : Int} {v : JsonValue} (h : integer? lo hi v = some i) :
    lo ≤ i ∧ i ≤ hi := by
  unfold integer? at h
  split at h
  · split at h
    · split at h
      · next hbounds => cases h; exact hbounds
      · cases h
    · cases h
  · cases h

end Serial

namespace ExitReport

theorem allLiteral_code : codeKey.AllLiteral := JsonText.allLiteral_ofString (by decide)

theorem readsBack_codeJson (c : Option Int32) : (codeJson c).ReadsBack := by
  cases c with
  | none => exact readsBack_null
  | some c => exact readsBack_ofInt c.toInt

theorem code?_codeJson (c : Option Int32) : code? (codeJson c) = some c := by
  cases c with
  | none => rfl
  | some c =>
    have hread : integer? (-2147483648) 2147483647 (.number (.ofInt c.toInt)) = some c.toInt :=
      integer?_ofInt ⟨Int32.le_toInt c, Int32.toInt_le c⟩
    simp only [code?, codeJson, hread, Option.map_some, Int32.ofInt_toInt]

theorem faithful : Faithful toJson ofJson? fun _ => True := by
  refine .of_values (fun r => readsBack_object ?_) (fun r _ => ?_) fun _ _ _ => trivial
  · exact List.forall_mem_singleton.2 ⟨allLiteral_code, readsBack_codeJson r.code⟩
  · have hvalues : valuesOf codeKey [(codeKey, codeJson r.code)] = [codeJson r.code] := by
      simp [valuesOf]
    have hkey : JsonText.isWellFormed codeKey = true := JsonText.isWellFormed_ofChars _
    simp [toJson, ofJson?, hvalues, hkey, code?_codeJson]

end ExitReport

namespace ReadinessSignal

/-- The count of attempts is one of 32 bits. -/
def Fits (s : ReadinessSignal) : Prop := ∀ n ∈ s.attempts?, (n : Int) ≤ maxAttempts

theorem allLiteral_signal : signalKey.AllLiteral := JsonText.allLiteral_ofString (by decide)

theorem allLiteral_attempts : attemptsKey.AllLiteral := JsonText.allLiteral_ofString (by decide)

theorem allLiteral_tag (s : ReadinessSignal) : (key s.tag).AllLiteral := by
  refine JsonText.allLiteral_ofString ?_
  cases s <;> simp only [tag] <;> decide

theorem readsBack_toJson (s : ReadinessSignal) : s.toJson.ReadsBack := by
  have hkind : (JsonValue.text (key s.tag)).ReadsBack := readsBack_text (allLiteral_tag s)
  refine readsBack_object (List.forall_mem_cons.2 ⟨⟨allLiteral_signal, hkind⟩, ?_⟩)
  cases s.attempts? with
  | none => exact nofun
  | some n => exact List.forall_mem_singleton.2 ⟨allLiteral_attempts, readsBack_ofInt n⟩

/-- What may stand in an object: keys and texts that are well formed, and no deep nesting. -/
def admitted (e : JsonText × JsonValue) : Bool :=
  JsonText.isWellFormed e.1 && e.2.isPlain && decide (e.2.depth < maxDepth)

theorem membersPlain_iff (es : List (JsonText × JsonValue)) :
    membersPlain es = true ↔ ∀ e ∈ es, JsonText.isWellFormed e.1 = true ∧ e.2.isPlain = true := by
  induction es with
  | nil => simp [membersPlain]
  | cons e es ih => simp [membersPlain, ih, and_assoc]

theorem membersDepth_lt_iff (es : List (JsonText × JsonValue)) :
    membersDepth es < maxDepth ↔ ∀ e ∈ es, e.2.depth < maxDepth := by
  induction es with
  | nil => simp [membersDepth, maxDepth]
  | cons e es ih => rw [membersDepth, Nat.max_lt, ih, List.forall_mem_cons]

theorem ofJson?_object (es : List (JsonText × JsonValue)) :
    ofJson? (.object es) = if es.all admitted then ofMembers? es else none := by
  have hall : (isPlain (.object es) && decide (depth (.object es) ≤ maxDepth)) =
      es.all admitted := by
    rw [Bool.eq_iff_iff, Bool.and_eq_true, decide_eq_true_eq, isPlain, depth, membersPlain_iff,
      Nat.succ_le_iff, membersDepth_lt_iff, ← forall₂_and]
    simp [admitted, and_assoc]
  rw [ofJson?, hall]

theorem kind?_key {t : String} {k : Kind} (h : (t, k) ∈ kinds) :
    kind? (.text (key t)) = some k := by
  simp only [kinds, List.mem_cons, Prod.mk.injEq, List.not_mem_nil, or_false] at h
  rcases h with ⟨rfl, rfl⟩ | ⟨rfl, rfl⟩ | ⟨rfl, rfl⟩ | ⟨rfl, rfl⟩ <;> rfl

theorem mem_kinds_of_kind? {v : JsonValue} {k : Kind} (h : kind? v = some k) :
    k = .bare .outputMatched ∨ k = .bare .startupTimeout ∨ k = .counted .healthCheckPassed ∨
      k = .counted .healthCheckExhausted := by
  unfold kind? at h
  split at h
  · obtain ⟨p, hp, rfl⟩ := Option.map_eq_some_iff.1 h
    have hmem := List.mem_of_find?_eq_some hp
    simp only [kinds, List.mem_cons, List.not_mem_nil, or_false] at hmem
    rcases hmem with rfl | rfl | rfl | rfl <;> simp
  · cases h

theorem counted?_attemptsJson (f : Nat → ReadinessSignal) {n : Nat} (h : (n : Int) ≤ maxAttempts) :
    counted? f (attemptsJson n) = some (f n) := by
  have hread : integer? 0 maxAttempts (.number (.ofInt n)) = some (n : Int) :=
    integer?_ofInt ⟨Int.natCast_nonneg n, h⟩
  simp [counted?, attemptsJson, hread]

theorem admitted_signal (t : String) : admitted (signalKey, .text (key t)) = true := by
  simp [admitted, isPlain, depth, maxDepth, signalKey, key, JsonText.ofString,
    JsonText.isWellFormed_ofChars]

theorem admitted_attempts {n : Nat} (h : (n : Int) ≤ maxAttempts) :
    admitted (attemptsKey, attemptsJson n) = true := by
  have hn : n < JsonNumber.exactLimit := by
    have hlimit : 4294967295 < JsonNumber.exactLimit := by decide
    rw [maxAttempts] at h
    omega
  simp [admitted, isPlain, depth, maxDepth, attemptsKey, attemptsJson, key, JsonText.ofString,
    JsonText.isWellFormed_ofChars, JsonNumber.isFinite_ofInt hn]

theorem ofJson?_bare {t : String} {s : ReadinessSignal} (h : (t, .bare s) ∈ kinds) :
    ofJson? (.object [(signalKey, .text (key t))]) = some s := by
  have hvalues : valuesOf signalKey [(signalKey, .text (key t))] = [.text (key t)] := by
    simp [valuesOf]
  rw [ofJson?_object, if_pos (by simp [admitted_signal])]
  simp only [ofMembers?, hvalues, kind?_key h]

theorem ofJson?_counted {t : String} {f : Nat → ReadinessSignal} {n : Nat}
    (h : (t, .counted f) ∈ kinds) (hn : (n : Int) ≤ maxAttempts) :
    ofJson? (.object [(signalKey, .text (key t)), (attemptsKey, attemptsJson n)]) =
      some (f n) := by
  have hkeys : signalKey ≠ attemptsKey := by decide
  have hsignal : valuesOf signalKey [(signalKey, .text (key t)), (attemptsKey, attemptsJson n)] =
      [.text (key t)] := by
    simp [valuesOf, hkeys.symm]
  have hattempts : valuesOf attemptsKey
      [(signalKey, .text (key t)), (attemptsKey, attemptsJson n)] = [attemptsJson n] := by
    simp [valuesOf, hkeys]
  rw [ofJson?_object, if_pos (by simp [admitted_signal, admitted_attempts hn])]
  simp only [ofMembers?, hsignal, hattempts, kind?_key h, counted?_attemptsJson f hn]

theorem ofJson?_toJson {s : ReadinessSignal} (h : s.Fits) : ofJson? s.toJson = some s := by
  cases s with
  | outputMatched => exact ofJson?_bare (by simp [kinds, tag])
  | healthCheckPassed n => exact ofJson?_counted (by simp [kinds, tag]) (h n rfl)
  | healthCheckExhausted n => exact ofJson?_counted (by simp [kinds, tag]) (h n rfl)
  | startupTimeout => exact ofJson?_bare (by simp [kinds, tag])

theorem fits_of_bare {v : JsonValue} {s : ReadinessSignal} (h : kind? v = some (.bare s)) :
    s.Fits := by
  rcases mem_kinds_of_kind? h with he | he | he | he <;> cases he <;> exact nofun

theorem fits_of_counted {v w : JsonValue} {f : Nat → ReadinessSignal} {s : ReadinessSignal}
    (h : kind? v = some (.counted f)) (hs : counted? f w = some s) : s.Fits := by
  have hf : ∀ n, (f n).attempts? = some n := by
    rcases mem_kinds_of_kind? h with he | he | he | he <;> cases he <;> exact fun _ => rfl
  obtain ⟨i, hi, rfl⟩ := Option.map_eq_some_iff.1 hs
  intro n hn
  obtain rfl : i.toNat = n := by simpa [hf] using hn
  have hbounds := integer?_bounds hi
  omega

theorem fits_of_ofMembers? {es : List (JsonText × JsonValue)} {s : ReadinessSignal}
    (h : ofMembers? es = some s) : s.Fits := by
  unfold ofMembers? at h
  split at h
  · split at h
    · next hk => cases h; exact fits_of_bare hk
    · next hk =>
      split at h
      · exact fits_of_counted hk h
      · cases h
    · cases h
  · cases h

theorem fits_of_ofItems? {vs : List JsonValue} {s : ReadinessSignal}
    (h : ofItems? vs = some s) : s.Fits := by
  unfold ofItems? at h
  split at h
  · split at h
    · next hk => cases h; exact fits_of_bare hk
    · cases h
  · split at h
    · next hk => exact fits_of_counted hk h
    · cases h
  · cases h

theorem fits_of_ofJson? {v : JsonValue} {s : ReadinessSignal} (h : ofJson? v = some s) :
    s.Fits := by
  unfold ofJson? at h
  split at h
  · split at h
    · exact fits_of_ofMembers? h
    · exact fits_of_ofItems? h
    · cases h
  · cases h

theorem faithful : Faithful toJson ofJson? Fits :=
  .of_values readsBack_toJson (fun _ => ofJson?_toJson) fun _ _ => fits_of_ofJson?

end ReadinessSignal

namespace Serial

/-- A member of none of the fields, with characters for a key: null, a truth value or a string of
characters, such as a string without escapes. -/
structure Idle (fields : List JsonText) (e : JsonText × JsonValue) : Prop where
  key_not_mem : e.1 ∉ fields
  key_chars : ∃ s, e.1 = .ofChars s
  value_plain : e.2 = .null ∨ (∃ b, e.2 = .bool b) ∨ ∃ s, e.2 = .text (.ofChars s)

section Objects

variable {α : Type} (fields : List JsonText) (ofJson? : JsonValue → Option α)

/-- Blanks mean nothing to a reader, nor do the order of the members of an object and idle members
among them. -/
structure Lenient : Prop where
  respaced : ∀ text text' : String, Respaced text.toList text'.toList →
    decode? ofJson? text' = decode? ofJson? text
  rearranged : ∀ (ms ms' extra : List MemberText) (text text' : String),
    Respaced (MemberText.object ms) text.toList → Respaced (MemberText.object ms') text'.toList →
    ms'.Perm (ms ++ extra) → (∀ m ∈ extra, Idle fields m.entry) →
    decode? ofJson? text' = decode? ofJson? text

variable {fields ofJson?}

theorem Lenient.of_objects
    (h : ∀ es es' extra, es'.Perm (es ++ extra) → (∀ e ∈ extra, Idle fields e) →
      ofJson? (.object es') = ofJson? (.object es)) : Lenient fields ofJson? := by
  have hspaced : ∀ (cs : List Char) (text : String), Respaced cs text.toList →
      decode? ofJson? text = (JsonValue.read? cs).bind ofJson? := by
    intro cs text hr
    rw [decode?, JsonValue.read?, hr.ofChars?_eq, ← JsonValue.read?]
  refine ⟨fun text text' hr => hspaced _ _ hr, ?_⟩
  intro ms ms' extra text text' htext htext' hperm hidle
  rw [hspaced _ _ htext, hspaced _ _ htext', MemberText.read?_object, MemberText.read?_object]
  refine h _ _ (extra.map MemberText.entry) ?_ (List.forall_mem_map.2 hidle)
  rw [← List.map_append]
  exact hperm.map _

variable {es es' extra : List (JsonText × JsonValue)} {p : JsonText × JsonValue → Bool}

theorem all_of_perm (hperm : es'.Perm (es ++ extra)) (hextra : ∀ e ∈ extra, p e = true) :
    es'.all p = es.all p := by
  rw [hperm.all_eq, List.all_append, List.all_eq_true.2 hextra, Bool.and_true]

theorem valuesOf_perm {k : JsonText} (hperm : es'.Perm (es ++ extra))
    (hextra : ∀ e ∈ extra, e.1 ≠ k) : (valuesOf k es').Perm (valuesOf k es) := by
  have hnone : extra.filter (·.1 = k) = [] := by
    simpa [List.filter_eq_nil_iff] using hextra
  have hvalues := (hperm.filter (·.1 = k)).map (·.2)
  rwa [List.filter_append, hnone, List.append_nil] at hvalues

/-- Other orders of a list matter only where it has two items. -/
theorem eq_or_of_perm {l l' : List JsonValue} (h : l'.Perm l) :
    l' = l ∨ (∃ a b t, l = a :: b :: t) ∧ ∃ a b t, l' = a :: b :: t := by
  have hlength := h.length_eq
  match l, l' with
  | [], [] => exact .inl rfl
  | [a], [b] => exact .inl (List.perm_singleton.1 h)
  | a :: b :: t, c :: d :: u => exact .inr ⟨⟨a, b, t, rfl⟩, c, d, u, rfl⟩

end Objects

theorem Idle.isWellFormed {fields : List JsonText} {e : JsonText × JsonValue}
    (h : Idle fields e) : JsonText.isWellFormed e.1 = true := by
  obtain ⟨s, hs⟩ := h.key_chars
  rw [hs]
  exact JsonText.isWellFormed_ofChars s

theorem Idle.admitted {fields : List JsonText} {e : JsonText × JsonValue} (h : Idle fields e) :
    ReadinessSignal.admitted e = true := by
  have hvalue : e.2.isPlain = true ∧ e.2.depth = 0 := by
    rcases h.value_plain with he | ⟨b, he⟩ | ⟨s, he⟩ <;> rw [he]
    · exact ⟨rfl, rfl⟩
    · exact ⟨rfl, rfl⟩
    · exact ⟨JsonText.isWellFormed_ofChars s, rfl⟩
  simp [ReadinessSignal.admitted, h.isWellFormed, hvalue, ReadinessSignal.maxDepth]

end Serial

theorem ExitReport.lenient : Lenient [codeKey] ExitReport.ofJson? := by
  refine .of_objects fun es es' extra hperm hidle => ?_
  have hall : (es'.all fun e => JsonText.isWellFormed e.1) =
      es.all fun e => JsonText.isWellFormed e.1 :=
    all_of_perm hperm fun e he => (hidle e he).isWellFormed
  have hvalues : (valuesOf codeKey es').Perm (valuesOf codeKey es) :=
    valuesOf_perm hperm fun e he hk => (hidle e he).key_not_mem (by simp [hk])
  rw [ofJson?, ofJson?, hall]
  -- a code that is repeated is refused in any order
  rcases eq_or_of_perm hvalues with he | ⟨⟨a, b, t, he⟩, c, d, u, he'⟩
  · rw [he]
  · rw [he, he']

theorem ReadinessSignal.lenient : Lenient [signalKey, attemptsKey] ReadinessSignal.ofJson? := by
  refine .of_objects fun es es' extra hperm hidle => ?_
  have hsignal : (valuesOf signalKey es').Perm (valuesOf signalKey es) :=
    valuesOf_perm hperm fun e he hk => (hidle e he).key_not_mem (by simp [hk])
  have hattempts : (valuesOf attemptsKey es').Perm (valuesOf attemptsKey es) :=
    valuesOf_perm hperm fun e he hk => (hidle e he).key_not_mem (by simp [hk])
  have hmembers : ofMembers? es' = ofMembers? es := by
    unfold ofMembers?
    rcases eq_or_of_perm hsignal with he | ⟨⟨a, b, t, he⟩, c, d, u, he'⟩
    · rw [he]
      rcases eq_or_of_perm hattempts with hn | ⟨⟨a, b, t, hn⟩, c, d, u, hn'⟩
      · rw [hn]
      · rw [hn, hn']
    · rw [he, he']
  rw [ofJson?_object, ofJson?_object, hmembers, all_of_perm hperm fun e he => (hidle e he).admitted]

/-- Shared values survive their written form. Any object is its members with blanks, and the
readers of reports and signals mind neither the blanks nor the order, nor idle members. -/
theorem Serial.faithful_and_lenient :
    Faithful LifecycleState.toJson LifecycleState.ofJson? (fun _ => True) ∧
    Faithful RunMode.toJson RunMode.ofJson? (fun _ => True) ∧
    Faithful TerminationSignal.toJson TerminationSignal.ofJson? (fun _ => True) ∧
    Faithful ExitReport.toJson ExitReport.ofJson? (fun _ => True) ∧
    Faithful ReadinessSignal.toJson ReadinessSignal.ofJson? ReadinessSignal.Fits ∧
    (∀ (text : String) (es : List (JsonText × JsonValue)),
      JsonValue.read? text.toList = some (.object es) →
        ∃ ms, ms.map MemberText.entry = es ∧ Respaced (MemberText.object ms) text.toList) ∧
    Lenient [ExitReport.codeKey] ExitReport.ofJson? ∧
    Lenient [ReadinessSignal.signalKey, ReadinessSignal.attemptsKey] ReadinessSignal.ofJson? :=
  ⟨LifecycleState.faithful, RunMode.faithful, TerminationSignal.faithful, ExitReport.faithful,
    ReadinessSignal.faithful, fun _ _ h => MemberText.exists_members h, ExitReport.lenient,
    ReadinessSignal.lenient⟩

/-- A member whose key holds half of a surrogate pair makes a report unreadable. -/
theorem Serial.lone_half_refused :
    ∃ m n : MemberText, n.key ≠ ExitReport.codeKey ∧ n.value = .null ∧
      MemberText.object [m] = "\x7b\"code\":3\x7d".toList ∧
      MemberText.object [m, n] = "\x7b\"code\":3,\"\\ud800\":null\x7d".toList ∧
      decode? ExitReport.ofJson? "\x7b\"code\":3\x7d" = some ⟨some 3⟩ ∧
      decode? ExitReport.ofJson? "\x7b\"code\":3,\"\\ud800\":null\x7d" = none := by
  have hcode : member? "\"code\":3".toList = some (ExitReport.codeKey, .number (.ofInt 3)) :=
    member?_of_lex (r := ":3".toList) (by decide) (by decide) (readsBack_ofInt 3)
  have hhalf : member? "\"\\ud800\":null".toList = some ([.lone 0xD800], .null) :=
    member?_of_lex (r := ":null".toList) (by decide) (by decide) readsBack_null
  have hone : MemberText.object [⟨_, _, _, hcode⟩] = "\x7b\"code\":3\x7d".toList := rfl
  have htwo : MemberText.object [⟨_, _, _, hcode⟩, ⟨_, _, _, hhalf⟩] =
      "\x7b\"code\":3,\"\\ud800\":null\x7d".toList := rfl
  have hkey : ([.lone 0xD800] : JsonText) ≠ ExitReport.codeKey := by decide
  have hwith : ExitReport.ofJson? (.object [(ExitReport.codeKey, .number (.ofInt 3)),
      ([.lone 0xD800], .null)]) = none := by decide
  have hwithout : ExitReport.ofJson? (.object [(ExitReport.codeKey, .number (.ofInt 3))]) =
      some ⟨some 3⟩ := by decide
  refine ⟨_, _, hkey, rfl, hone, htwo, ?_, ?_⟩
  · rw [decode?, ← hone, MemberText.read?_object]
    exact hwithout
  · rw [decode?, ← htwo, MemberText.read?_object]
    exact hwith

end DesktopHost
