import DesktopHost.Readiness.Latch
import DesktopHost.Text.Utf8
import Mathlib.Data.List.Basic

/-!
Decoding, piece by piece. Any bytes fall into pieces, each of them the whole of one character or
an ill-formed part, and no piece goes on past a byte that continues no character. So whatever
stands around a character, it is decoded as if it stood alone. Main result: a decoded line holds a
marker just if the line holds the bytes of the marker.
-/

set_option autoImplicit false

namespace DesktopHost.Utf8

/-- What the bytes after the first have to pass, one test each. -/
def Lead.tests : Lead → List (UInt8 → Bool)
  | .single | .stray => []
  | .pair => [isTail]
  | .triple lo hi => [within lo hi, isTail]
  | .quad lo hi => [within lo hi, isTail, isTail]

/-- The bytes at the front that pass their tests, up to the first that fails. -/
def passing : List (UInt8 → Bool) → Bytes → Bytes
  | test :: tests, b :: r => if test b then b :: passing tests r else []
  | _, _ => []

/-- The character that the bytes are the whole of. -/
def whole? : Bytes → Option Char
  | [a] => if lead a = .single then some (Char.ofNat a.toNat) else none
  | [a, b] => if lead a = .pair ∧ isTail b then some (join2 a b) else none
  | [a, b, c] =>
    match lead a with
    | .triple lo hi => if within lo hi b ∧ isTail c then some (join3 a b c) else none
    | _ => none
  | [a, b, c, d] =>
    match lead a with
    | .quad lo hi => if within lo hi b ∧ isTail c ∧ isTail d then some (join4 a b c d) else none
    | _ => none
  | _ => none

/-- The first piece goes as far as the tests of its first byte are passed. -/
theorem scan_cons (a : UInt8) (r : Bytes) : scan (a :: r) =
    whole? (a :: passing (lead a).tests r) ::
      scan (r.drop (passing (lead a).tests r).length) := by
  rw [scan.eq_def]
  dsimp only
  split
  · next h => simp [h, Lead.tests, passing, whole?]
  · next h => simp [h, Lead.tests, passing, whole?]
  · next h =>
    rcases r with _ | ⟨b, r⟩
    · simp [h, Lead.tests, passing, whole?]
    · by_cases hb : isTail b <;> simp [h, hb, Lead.tests, passing, whole?]
  · next lo hi h =>
    rcases r with _ | ⟨b, _ | ⟨c, r⟩⟩
    · simp [h, Lead.tests, passing, whole?]
    · by_cases hb : within lo hi b <;> simp [h, hb, Lead.tests, passing, whole?]
    · by_cases hb : within lo hi b <;> by_cases hc : isTail c <;>
        simp [h, hb, hc, Lead.tests, passing, whole?]
  · next lo hi h =>
    rcases r with _ | ⟨b, _ | ⟨c, _ | ⟨d, r⟩⟩⟩
    · simp [h, Lead.tests, passing, whole?]
    · by_cases hb : within lo hi b <;> simp [h, hb, Lead.tests, passing, whole?]
    · by_cases hb : within lo hi b <;> by_cases hc : isTail c <;>
        simp [h, hb, hc, Lead.tests, passing, whole?]
    · by_cases hb : within lo hi b <;> by_cases hc : isTail c <;> by_cases hd : isTail d <;>
        simp [h, hb, hc, hd, Lead.tests, passing, whole?]

theorem passing_append_drop (tests : List (UInt8 → Bool)) (r : Bytes) :
    passing tests r ++ r.drop (passing tests r).length = r := by
  induction tests generalizing r with
  | nil => rfl
  | cons test tests ih =>
    cases r with
    | nil => rfl
    | cons b r =>
      unfold passing
      split
      · exact congrArg (b :: ·) (ih r)
      · rfl

/-- A byte that fails every test makes no difference before it. -/
theorem passing_append_cons {tests : List (UInt8 → Bool)} {b : UInt8}
    (hb : ∀ test ∈ tests, test b = false) (x y : Bytes) :
    passing tests (x ++ b :: y) = passing tests x := by
  induction tests generalizing x with
  | nil => rfl
  | cons test tests ih =>
    cases x with
    | nil => simp [passing, hb test List.mem_cons_self]
    | cons a x =>
      have ih := ih (fun test ht => hb test (List.mem_cons_of_mem _ ht)) x
      simp only [List.cons_append, passing, ih]

theorem isTail_iff {b : UInt8} : isTail b = true ↔ 0x80 ≤ b.toNat ∧ b.toNat ≤ 0xBF := by
  simp [isTail, UInt8.le_iff_toNat_le]

theorem within_iff {lo hi b : UInt8} :
    within lo hi b = true ↔ lo.toNat ≤ b.toNat ∧ b.toNat ≤ hi.toNat := by
  simp [within, UInt8.le_iff_toNat_le]

/-- The first bytes of each kind, and the least and the greatest second byte that they admit. -/
theorem lead_bounds (a : UInt8) : match lead a with
    | .single => a.toNat < 0x80
    | .pair => 0xC2 ≤ a.toNat ∧ a.toNat < 0xE0
    | .triple lo hi => 0xE0 ≤ a.toNat ∧ a.toNat < 0xF0 ∧ 0x80 ≤ lo.toNat ∧ hi.toNat ≤ 0xBF ∧
        (a.toNat = 0xE0 → 0xA0 ≤ lo.toNat) ∧ (a.toNat = 0xED → hi.toNat ≤ 0x9F)
    | .quad lo hi => 0xF0 ≤ a.toNat ∧ a.toNat < 0xF5 ∧ 0x80 ≤ lo.toNat ∧ hi.toNat ≤ 0xBF ∧
        (a.toNat = 0xF0 → 0x90 ≤ lo.toNat) ∧ (a.toNat = 0xF4 → hi.toNat ≤ 0x8F)
    | .stray => True := by
  unfold lead
  split_ifs <;> simp_all [UInt8.lt_iff_toNat_lt, ← UInt8.toNat_inj]
  all_goals omega

theorem tests_false {b : UInt8} (hb : isTail b = false) (a : UInt8) :
    ∀ test ∈ (lead a).tests, test b = false := by
  have hlead := lead_bounds a
  have hwithin {lo hi : UInt8} (hlo : 0x80 ≤ lo.toNat) (hhi : hi.toNat ≤ 0xBF) :
      within lo hi b = false := by
    rw [← Bool.not_eq_true, within_iff]
    rw [← Bool.not_eq_true, isTail_iff] at hb
    omega
  cases hl : lead a with
  | single | stray => exact nofun
  | pair => simpa [Lead.tests] using hb
  | triple lo hi =>
    rw [hl] at hlead
    simpa [Lead.tests] using ⟨hwithin hlead.2.2.1 hlead.2.2.2.1, hb⟩
  | quad lo hi =>
    rw [hl] at hlead
    simpa [Lead.tests] using ⟨hwithin hlead.2.2.1 hlead.2.2.2.1, hb⟩

/-- Where a byte stands that continues no character, reading begins anew. -/
theorem scan_append_cons (x : Bytes) {b : UInt8} (hb : isTail b = false) (y : Bytes) :
    scan (x ++ b :: y) = scan x ++ scan (b :: y) := by
  -- by the length of `x`: the rest after its first piece is shorter
  induction hn : x.length using Nat.strongRecOn generalizing x with
  | _ n ih =>
    cases x with
    | nil => rfl
    | cons a x =>
      have hle : (passing (lead a).tests x).length ≤ x.length := by
        have := congrArg List.length (passing_append_drop (lead a).tests x)
        rw [List.length_append] at this
        omega
      have hrest := ih (x.drop (passing (lead a).tests x).length).length
        (by rw [List.length_drop, ← hn, List.length_cons]; omega) _ rfl
      rw [List.cons_append, scan_cons, scan_cons a x, passing_append_cons (tests_false hb a),
        List.drop_append_of_le_length hle, hrest, List.cons_append]

/-- Every byte belongs to one piece, and every piece is read by itself. -/
theorem exists_pieces (bs : Bytes) :
    ∃ pieces : List Bytes, pieces.flatten = bs ∧ pieces.map whole? = scan bs := by
  induction hn : bs.length using Nat.strongRecOn generalizing bs with
  | _ n ih =>
    cases bs with
    | nil => exact ⟨[], rfl, rfl⟩
    | cons a r =>
      obtain ⟨pieces, hflat, hread⟩ := ih (r.drop (passing (lead a).tests r).length).length
        (by rw [List.length_drop, ← hn, List.length_cons]; omega) _ rfl
      refine ⟨(a :: passing (lead a).tests r) :: pieces, ?_, ?_⟩
      · rw [List.flatten_cons, hflat, List.cons_append, passing_append_drop]
      · rw [List.map_cons, hread, scan_cons]

theorem ofNat_eq {n : Nat} {a : UInt8} (h : n = a.toNat) : UInt8.ofNat n = a := by
  rw [h, UInt8.ofNat_toNat]

theorem toNat_charOfNat {n : Nat} (h : n.isValidChar) : (Char.ofNat n).toNat = n := by
  unfold Char.ofNat
  rw [dif_pos h]
  rfl

theorem encodeChar_ofNat {a : UInt8} (ha : lead a = .single) :
    encodeChar (Char.ofNat a.toNat) = [a] := by
  have hlead := lead_bounds a
  rw [ha] at hlead
  dsimp only at hlead
  have hn := toNat_charOfNat (n := a.toNat) (.inl (by omega))
  unfold encodeChar
  dsimp only
  rw [hn, if_pos hlead, UInt8.ofNat_toNat]

theorem encodeChar_join2 {a b : UInt8} (ha : lead a = .pair) (hb : isTail b = true) :
    encodeChar (join2 a b) = [a, b] := by
  have hlead := lead_bounds a
  rw [ha] at hlead
  rw [isTail_iff] at hb
  have hn : (join2 a b).toNat = a.toNat % 32 * 64 + b.toNat % 64 :=
    toNat_charOfNat (.inl (by unfold low6; omega))
  unfold encodeChar
  dsimp only at hlead ⊢
  rw [if_neg (by omega), if_pos (by omega), ofNat_eq (a := a) (by omega),
    ofNat_eq (a := b) (by omega)]

theorem encodeChar_join3 {a b c lo hi : UInt8} (ha : lead a = .triple lo hi)
    (hb : within lo hi b = true) (hc : isTail c = true) :
    encodeChar (join3 a b c) = [a, b, c] := by
  have hlead := lead_bounds a
  rw [ha] at hlead
  rw [within_iff] at hb
  rw [isTail_iff] at hc
  dsimp only at hlead
  have hn : (join3 a b c).toNat = a.toNat % 16 * 4096 + b.toNat % 64 * 64 + c.toNat % 64 :=
    toNat_charOfNat (by unfold low6 Nat.isValidChar; omega)
  unfold encodeChar
  dsimp only
  rw [if_neg (by omega), if_neg (by omega), if_pos (by omega), ofNat_eq (a := a) (by omega),
    ofNat_eq (a := b) (by omega), ofNat_eq (a := c) (by omega)]

theorem encodeChar_join4 {a b c d lo hi : UInt8} (ha : lead a = .quad lo hi)
    (hb : within lo hi b = true) (hc : isTail c = true) (hd : isTail d = true) :
    encodeChar (join4 a b c d) = [a, b, c, d] := by
  have hlead := lead_bounds a
  rw [ha] at hlead
  rw [within_iff] at hb
  rw [isTail_iff] at hc hd
  dsimp only at hlead
  have hn : (join4 a b c d).toNat =
      a.toNat % 8 * 262144 + b.toNat % 64 * 4096 + c.toNat % 64 * 64 + d.toNat % 64 :=
    toNat_charOfNat (by unfold low6 Nat.isValidChar; omega)
  unfold encodeChar
  dsimp only
  rw [if_neg (by omega), if_neg (by omega), if_neg (by omega), ofNat_eq (a := a) (by omega),
    ofNat_eq (a := b) (by omega), ofNat_eq (a := c) (by omega), ofNat_eq (a := d) (by omega)]

/-- The four ways in which bytes are the whole of a character. -/
theorem whole?_cases {p : Bytes} {c : Char} (h : whole? p = some c) :
    (∃ a, p = [a] ∧ lead a = .single ∧ c = Char.ofNat a.toNat) ∨
    (∃ a b, p = [a, b] ∧ lead a = .pair ∧ isTail b = true ∧ c = join2 a b) ∨
    (∃ a b d lo hi, p = [a, b, d] ∧ lead a = .triple lo hi ∧ within lo hi b = true ∧
      isTail d = true ∧ c = join3 a b d) ∨
    ∃ a b d e lo hi, p = [a, b, d, e] ∧ lead a = .quad lo hi ∧ within lo hi b = true ∧
      isTail d = true ∧ isTail e = true ∧ c = join4 a b d e := by
  unfold whole? at h
  split at h
  · next a =>
    obtain ⟨ha, hc⟩ := Option.ite_none_right_eq_some.1 h
    exact .inl ⟨a, rfl, ha, (Option.some.inj hc).symm⟩
  · next a b =>
    obtain ⟨⟨ha, hb⟩, hc⟩ := Option.ite_none_right_eq_some.1 h
    exact .inr (.inl ⟨a, b, rfl, ha, hb, (Option.some.inj hc).symm⟩)
  · next a b d =>
    split at h
    · next lo hi ha =>
      obtain ⟨⟨hb, hd⟩, hc⟩ := Option.ite_none_right_eq_some.1 h
      exact .inr (.inr (.inl ⟨a, b, d, lo, hi, rfl, ha, hb, hd, (Option.some.inj hc).symm⟩))
    · cases h
  · next a b d e =>
    split at h
    · next lo hi ha =>
      obtain ⟨⟨hb, hd, he⟩, hc⟩ := Option.ite_none_right_eq_some.1 h
      exact .inr (.inr (.inr ⟨a, b, d, e, lo, hi, rfl, ha, hb, hd, he, (Option.some.inj hc).symm⟩))
    · cases h
  · cases h

/-- What is the whole of a character is what that character is written as. -/
theorem encodeChar_of_whole? {p : Bytes} {c : Char} (h : whole? p = some c) :
    encodeChar c = p := by
  obtain ⟨a, rfl, ha, rfl⟩ | ⟨a, b, rfl, ha, hb, rfl⟩ | ⟨a, b, d, lo, hi, rfl, ha, hb, hd, rfl⟩ |
    ⟨a, b, d, e, lo, hi, rfl, ha, hb, hd, he, rfl⟩ := whole?_cases h
  · exact encodeChar_ofNat ha
  · exact encodeChar_join2 ha hb
  · exact encodeChar_join3 ha hb hd
  · exact encodeChar_join4 ha hb hd he

theorem lead_single : ∀ k < 128, lead (.ofNat k) = .single := by decide

theorem lead_pair : ∀ k < 32, 2 ≤ k → lead (.ofNat (0xC0 + k)) = .pair := by decide

theorem lead_triple : ∀ k < 16, lead (.ofNat (0xE0 + k)) =
    .triple (if k = 0 then 0xA0 else 0x80) (if k = 13 then 0x9F else 0xBF) := by decide

theorem lead_quad : ∀ k < 5, lead (.ofNat (0xF0 + k)) =
    .quad (if k = 0 then 0x90 else 0x80) (if k = 4 then 0x8F else 0xBF) := by decide

/-- A code point in two bytes. -/
theorem whole?_pair {n : Nat} (h : 0x80 ≤ n ∧ n < 0x800) :
    whole? [.ofNat (0xC0 + n / 64), .ofNat (0x80 + n % 64)] = some (Char.ofNat n) := by
  have hl := lead_pair (n / 64) (by omega) (by omega)
  have ha := UInt8.toNat_ofNat_of_lt' (show 0xC0 + n / 64 < 256 by omega)
  have hb := UInt8.toNat_ofNat_of_lt' (show 0x80 + n % 64 < 256 by omega)
  generalize UInt8.ofNat (0xC0 + n / 64) = a at *
  generalize UInt8.ofNat (0x80 + n % 64) = b at *
  have hn : a.toNat % 32 * 64 + low6 b = n := by unfold low6; omega
  rw [whole?, if_pos ⟨hl, isTail_iff.2 (by omega)⟩, join2, hn]

/-- A code point in three bytes; half of a pair of surrogates is none. -/
theorem whole?_triple {n : Nat} (h : 0x800 ≤ n ∧ n < 0x10000) (hs : n < 0xD800 ∨ 0xDFFF < n) :
    whole? [.ofNat (0xE0 + n / 4096), .ofNat (0x80 + n / 64 % 64), .ofNat (0x80 + n % 64)] =
      some (Char.ofNat n) := by
  have hl := lead_triple (n / 4096) (by omega)
  have ha := UInt8.toNat_ofNat_of_lt' (show 0xE0 + n / 4096 < 256 by omega)
  have hb := UInt8.toNat_ofNat_of_lt' (show 0x80 + n / 64 % 64 < 256 by omega)
  have hd := UInt8.toNat_ofNat_of_lt' (show 0x80 + n % 64 < 256 by omega)
  generalize UInt8.ofNat (0xE0 + n / 4096) = a at *
  generalize UInt8.ofNat (0x80 + n / 64 % 64) = b at *
  generalize UInt8.ofNat (0x80 + n % 64) = d at *
  have hw : within (if n / 4096 = 0 then 0xA0 else 0x80) (if n / 4096 = 13 then 0x9F else 0xBF) b =
      true := by
    rw [within_iff]
    split <;> split <;> simp only [UInt8.reduceToNat] <;> omega
  have hn : a.toNat % 16 * 4096 + low6 b * 64 + low6 d = n := by unfold low6; omega
  rw [whole?, hl]
  dsimp only
  rw [if_pos ⟨hw, isTail_iff.2 (by omega)⟩, join3, hn]

/-- A code point in four bytes. -/
theorem whole?_quad {n : Nat} (h : 0x10000 ≤ n ∧ n < 0x110000) :
    whole? [.ofNat (0xF0 + n / 262144), .ofNat (0x80 + n / 4096 % 64),
      .ofNat (0x80 + n / 64 % 64), .ofNat (0x80 + n % 64)] = some (Char.ofNat n) := by
  have hl := lead_quad (n / 262144) (by omega)
  have ha := UInt8.toNat_ofNat_of_lt' (show 0xF0 + n / 262144 < 256 by omega)
  have hb := UInt8.toNat_ofNat_of_lt' (show 0x80 + n / 4096 % 64 < 256 by omega)
  have hd := UInt8.toNat_ofNat_of_lt' (show 0x80 + n / 64 % 64 < 256 by omega)
  have he := UInt8.toNat_ofNat_of_lt' (show 0x80 + n % 64 < 256 by omega)
  generalize UInt8.ofNat (0xF0 + n / 262144) = a at *
  generalize UInt8.ofNat (0x80 + n / 4096 % 64) = b at *
  generalize UInt8.ofNat (0x80 + n / 64 % 64) = d at *
  generalize UInt8.ofNat (0x80 + n % 64) = e at *
  have hw : within (if n / 262144 = 0 then 0x90 else 0x80)
      (if n / 262144 = 4 then 0x8F else 0xBF) b = true := by
    rw [within_iff]
    split <;> split <;> simp only [UInt8.reduceToNat] <;> omega
  have hn : a.toNat % 8 * 262144 + low6 b * 4096 + low6 d * 64 + low6 e = n := by
    unfold low6
    omega
  rw [whole?, hl]
  dsimp only
  rw [if_pos ⟨hw, isTail_iff.2 (by omega), isTail_iff.2 (by omega)⟩, join4, hn]

theorem whole?_encodeChar (c : Char) : whole? (encodeChar c) = some c := by
  have hvalid : c.toNat < 0xD800 ∨ 0xDFFF < c.toNat ∧ c.toNat < 0x110000 := c.valid
  unfold encodeChar
  dsimp only
  split_ifs with h₁ h₂ h₃
  · have ha := UInt8.toNat_ofNat_of_lt' (show c.toNat < 256 by omega)
    rw [whole?, if_pos (lead_single _ h₁), ha, Char.ofNat_toNat]
  · rw [whole?_pair (by omega), Char.ofNat_toNat]
  · rw [whole?_triple (by omega) (by omega), Char.ofNat_toNat]
  · rw [whole?_quad (by omega), Char.ofNat_toNat]

/-- A complete sequence passes the tests of its first byte, whatever follows it. -/
theorem passing_of_whole? {a : UInt8} {t : Bytes} {c : Char} (h : whole? (a :: t) = some c)
    (r : Bytes) : passing (lead a).tests (t ++ r) = t := by
  obtain ⟨_, hp, ha, -⟩ | ⟨_, b, hp, ha, hb, -⟩ | ⟨_, b, d, lo, hi, hp, ha, hb, hd, -⟩ |
    ⟨_, b, d, e, lo, hi, hp, ha, hb, hd, he, -⟩ := whole?_cases h
  · cases hp
    rw [ha]
    rfl
  · cases hp
    simp [ha, hb, Lead.tests, passing]
  · cases hp
    simp [ha, hb, hd, Lead.tests, passing]
  · cases hp
    simp [ha, hb, hd, he, Lead.tests, passing]

theorem isTail_of_lead {a : UInt8} (h : lead a ≠ .stray) : isTail a = false := by
  have hlead := lead_bounds a
  rw [← Bool.not_eq_true, isTail_iff]
  split at hlead
  · omega
  · omega
  · omega
  · omega
  · next hs => exact absurd hs h

theorem lead_of_whole? {a : UInt8} {t : Bytes} {c : Char} (h : whole? (a :: t) = some c) :
    lead a ≠ .stray := by
  intro hs
  obtain ⟨_, hp, ha, -⟩ | ⟨_, _, hp, ha, -⟩ | ⟨_, _, _, _, _, hp, ha, -⟩ |
    ⟨_, _, _, _, _, _, hp, ha, -⟩ := whole?_cases h <;>
  · cases hp
    rw [hs] at ha
    cases ha

/-- A character is written as a byte that continues no other, and more. -/
theorem encodeChar_eq_cons (c : Char) : ∃ a t, encodeChar c = a :: t ∧ isTail a = false ∧
    ∀ r, passing (lead a).tests (t ++ r) = t := by
  have hw := whole?_encodeChar c
  cases he : encodeChar c with
  | nil => rw [he] at hw; cases hw
  | cons a t =>
    rw [he] at hw
    exact ⟨a, t, rfl, isTail_of_lead (lead_of_whole? hw), passing_of_whole? hw⟩

theorem scan_encodeChar (c : Char) (r : Bytes) :
    scan (encodeChar c ++ r) = some c :: scan r := by
  obtain ⟨a, t, he, -, hpassing⟩ := encodeChar_eq_cons c
  rw [he, List.cons_append, scan_cons, hpassing, List.drop_left, ← he, whole?_encodeChar]

theorem scan_encodeChars (cs : List Char) (r : Bytes) :
    scan (encodeChars cs ++ r) = cs.map some ++ scan r := by
  induction cs with
  | nil => rfl
  | cons c cs ih =>
    rw [show encodeChars (c :: cs) = encodeChar c ++ encodeChars cs from rfl, List.append_assoc,
      scan_encodeChar, ih]
    rfl

/-- Text that is written out is read back. -/
theorem decode?_encode (s : String) : decode? (encode s) = some s := by
  have hscan : scan (encode s) = s.toList.map some := by
    simpa [encode] using scan_encodeChars s.toList []
  simp [decode?, lossy, lossyChars, hscan, Function.comp_def]

/-- Around characters that are written out, the bytes are decoded as if these were not there. -/
theorem lossyChars_around (x z : Bytes) {cs : List Char} (hcs : cs ≠ []) :
    lossyChars (x ++ (encodeChars cs ++ z)) = lossyChars x ++ (cs ++ lossyChars z) := by
  have hscan : scan (x ++ (encodeChars cs ++ z)) = scan x ++ scan (encodeChars cs ++ z) := by
    obtain ⟨c, cs, rfl⟩ := List.exists_cons_of_ne_nil hcs
    obtain ⟨a, t, he, ha, -⟩ := encodeChar_eq_cons c
    rw [show encodeChars (c :: cs) = encodeChar c ++ encodeChars cs from rfl, he]
    exact scan_append_cons x ha _
  rw [lossyChars, hscan, scan_encodeChars, List.map_append, List.map_append, List.map_map]
  exact congrArg (lossyChars x ++ ·) (congrArg (· ++ lossyChars z) (List.map_id cs))

/-- What is decoded, and is no replacement, is written out in the bytes; at their end, if it is
decoded there. -/
theorem exists_around {bs : Bytes} {x cs z : List Char} (h : lossyChars bs = x ++ cs ++ z)
    (hcs : replacement ∉ cs) :
    ∃ u v, bs = u ++ encodeChars cs ++ v ∧ (z = [] → v = []) := by
  obtain ⟨pieces, rfl, hread⟩ := exists_pieces bs
  rw [lossyChars, ← hread, List.map_map] at h
  obtain ⟨front, back, rfl, hfront, rfl⟩ := List.map_eq_append_iff.1 h
  obtain ⟨before, inside, rfl, -, rfl⟩ := List.map_eq_append_iff.1 hfront
  have hinside (p : Bytes) (hp : p ∈ inside) : p = encodeChar ((whole? p).getD replacement) := by
    cases hw : whole? p with
    | some c => exact (encodeChar_of_whole? hw).symm
    | none => exact absurd (List.mem_map.2 ⟨p, hp, by rw [Function.comp_apply, hw]; rfl⟩) hcs
  refine ⟨before.flatten, back.flatten, ?_, fun hz => by rw [List.map_eq_nil_iff.1 hz]; rfl⟩
  rw [encodeChars, List.flatMap_map, List.flatten_append, List.flatten_append]
  refine congrArg (fun m => before.flatten ++ m ++ back.flatten) ?_
  calc inside.flatten = inside.flatMap id := List.flatMap_id.symm
    _ = inside.flatMap fun p => encodeChar ((whole? p).getD replacement) :=
      List.flatMap_congr hinside

/-- Decoding neither hides nor invents what is no replacement. -/
theorem infix_lossyChars_iff {cs : List Char} (hcs : replacement ∉ cs) (bs : Bytes) :
    cs <:+: lossyChars bs ↔ encodeChars cs <:+: bs := by
  constructor
  · rintro ⟨x, z, h⟩
    obtain ⟨u, v, rfl, -⟩ := exists_around h.symm hcs
    exact List.infix_append _ _ _
  · rintro ⟨u, v, rfl⟩
    rcases List.eq_nil_or_concat cs with rfl | ⟨init, c, rfl⟩
    · exact List.nil_infix
    · rw [List.append_assoc, lossyChars_around u v (by simp), ← List.append_assoc]
      exact List.infix_append _ _ _

end DesktopHost.Utf8

namespace DesktopHost

/-- Whatever else stands in a line, well formed or not, a marker without a replacement character
is seen in the decoded line just if its bytes stand in the line. -/
theorem marker_seen_iff {marker : String} (plain : Utf8.replacement ∉ marker.toList)
    (line : Bytes) :
    lineSignalsReady [marker] (Utf8.lossy line) = true ↔ Utf8.encode marker <:+: line := by
  rw [lineSignalsReady, List.any_cons, List.any_nil, Bool.or_false, occurs_iff, Utf8.lossy,
    String.toList_ofList, Utf8.infix_lossyChars_iff plain, Utf8.encode]

/-- The first byte of a character before a marker, and the last of one after it, hide nothing. -/
theorem marker_seen_between_stumps : Utf8.replacement ∉ "é".toList ∧
    lineSignalsReady ["é"] (Utf8.lossy [0xE2, 0x82, 0xC3, 0xA9, 0xAC]) = true := by
  have plain : Utf8.replacement ∉ "é".toList := by decide
  exact ⟨plain, (marker_seen_iff plain _).2 ⟨[0xE2, 0x82], [0xAC], by decide⟩⟩

end DesktopHost
