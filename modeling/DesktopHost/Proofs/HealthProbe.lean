import DesktopHost.Proofs.OwnPage
import Mathlib.Data.List.Basic
import Mathlib.Data.List.TakeWhile
import Mathlib.Tactic.Common

/-!
Where the backend is asked for its health. The path of the configuration is read like a link on
the backend's page: most texts lead to a place on the backend, but one that names an authority of
its own leads there instead, and owes nothing to the backend's address.
-/

set_option autoImplicit false

namespace DesktopHost

namespace Url

def httpScheme : List Char := ['h', 't', 't', 'p']

/-- The characters of a text that are read. -/
def condensed (input : String) : List Char := joined (trimmed input.toList)

def hasTwoSlashes (cs : List Char) : Bool := 2 ≤ (cs.takeWhile isSlash).length

/-- Whether a text leaves the host that it is read from: it has a scheme of its own, or two slashes
where a host would begin. -/
def leavesHost (scheme : List Char) (input : String) : Bool :=
  match scheme? (condensed input) with
  | none => hasTwoSlashes (condensed input)
  | some (own, rest) => own != scheme || hasTwoSlashes rest

theorem isSlash_iff {c : Char} : isSlash c = true ↔ c = '/' ∨ c = '\\' := by
  simp [isSlash]

theorem hasTwoSlashes_cons_cons (c d : Char) (r : List Char) :
    hasTwoSlashes (c :: d :: r) = (isSlash c && isSlash d) := by
  cases hc : isSlash c <;> cases hd : isSlash d <;> simp [hasTwoSlashes, hc, hd]

theorem exists_of_hasTwoSlashes {cs : List Char} (h : hasTwoSlashes cs = true) :
    ∃ c d r, cs = c :: d :: r ∧ isSlash c = true ∧ isSlash d = true := by
  match cs with
  | [] => cases h
  | [c] => cases hc : isSlash c <;> simp [hasTwoSlashes, hc] at h
  | c :: d :: r =>
    rw [hasTwoSlashes_cons_cons, Bool.and_eq_true] at h
    exact ⟨c, d, r, rfl, h.1, h.2⟩

section Relative

variable {base : Url} {segments : List (List Char)} {cs : List Char}

/-- Text without two slashes in front stays on the host. -/
theorem relative_within (hpath : base.path = .parts segments) (h : hasTwoSlashes cs = false) :
    ∃ path query fragment,
      relative base cs = .ok { base with path := path, query := query, fragment := fragment } := by
  obtain ⟨scheme, user, password, host, port, path, query, fragment⟩ := base
  obtain rfl : path = .parts segments := hpath
  simp only [relative]
  split
  · exact ⟨_, _, _, rfl⟩
  · exact ⟨_, _, _, rfl⟩
  · exact ⟨_, _, _, rfl⟩
  · next c rest _ _ =>
    cases hc : isSlash c with
    | false => exact ⟨_, _, _, rfl⟩
    | true =>
      cases rest with
      | nil => exact ⟨_, _, _, rfl⟩
      | cons d r =>
        rw [hasTwoSlashes_cons_cons, hc, Bool.true_and] at h
        simp only [h]
        exact ⟨_, _, _, rfl⟩

theorem relative_slash {r : List Char} (hpath : base.path = .parts segments)
    (h : hasTwoSlashes ('/' :: r) = false) : relative base ('/' :: r) =
      .ok { base with
        path := .parts (extendPath (schemeKind base.scheme) [] r)
        query := (tail (schemeKind base.scheme) ('/' :: r)).query
        fragment := (tail (schemeKind base.scheme) ('/' :: r)).fragment } := by
  unfold relative
  rw [hpath]
  cases r with
  | nil => rfl
  | cons d r =>
    have hd : isSlash d = false := by
      rw [hasTwoSlashes_cons_cons, Bool.and_eq_false_iff] at h
      exact h.resolve_left (by decide)
    simp [isSlash_iff.2 (.inl rfl), hd]

/-- Behind two slashes begins an authority, which only takes the scheme from where it is read. -/
theorem relative_beyond (h : hasTwoSlashes cs = true) : ∃ rest, ∀ (base : Url) segments,
    base.path = .parts segments → relative base cs = afterSlashes base.scheme rest := by
  obtain ⟨c, d, r, rfl, hc, hd⟩ := exists_of_hasTwoSlashes h
  refine ⟨if c == '/' && d == '/' then r else (c :: d :: r).dropWhile isSlash, ?_⟩
  intro base segments hpath
  unfold relative
  rw [hpath]
  rcases isSlash_iff.1 hc with rfl | rfl <;> simp [hc, hd]

end Relative

section Join

variable {base : Url} {segments : List (List Char)} {input : String}

theorem join_without_scheme (h : scheme? (condensed input) = none) :
    base.join input = relative base (condensed input) := by
  unfold condensed at h
  unfold join parse condensed
  simp only [h]

/-- A web address of the same scheme is relative too, if it has no two slashes. -/
theorem join_with_scheme {own rest : List Char} (hweb : schemeKind own = .web)
    (h : scheme? (condensed input) = some (own, rest)) : base.join input =
      if hasTwoSlashes rest = false ∧ base.scheme = own then relative base rest
      else afterSlashes own (rest.dropWhile isSlash) := by
  unfold condensed at h
  unfold join parse
  simp only [h, hweb, hasTwoSlashes, decide_eq_false_iff_not, Nat.not_le, Bool.and_eq_true,
    decide_eq_true_eq, beq_iff_eq]

theorem join_elsewhere {other : Url} {own rest : List Char} (hother : schemeKind own ≠ .web)
    (h : scheme? (condensed input) = some (own, rest)) : other.join input = base.join input := by
  unfold condensed at h
  unfold join parse
  simp only [h]
  cases hk : schemeKind own with
  | web => exact absurd hk hother
  | file | free => rfl

/-- Joining a text that stays on the host only chooses path, query and fragment. -/
theorem join_within (hweb : schemeKind base.scheme = .web) (hpath : base.path = .parts segments)
    (h : leavesHost base.scheme input = false) : ∃ path query fragment,
      base.join input = .ok { base with path := path, query := query, fragment := fragment } := by
  unfold leavesHost at h
  cases hs : scheme? (condensed input) with
  | none =>
    rw [hs] at h
    rw [join_without_scheme hs]
    exact relative_within hpath h
  | some p =>
    obtain ⟨own, rest⟩ := p
    rw [hs] at h
    simp only [Bool.or_eq_false_iff, bne_eq_false_iff_eq] at h
    obtain ⟨rfl, hrest⟩ := h
    rw [join_with_scheme hweb hs, if_pos ⟨hrest, rfl⟩]
    exact relative_within hpath hrest

/-- Joining a text that leaves the host has nothing to do with the rest of the address. -/
theorem join_beyond {other : Url} {segments' : List (List Char)}
    (hpath : base.path = .parts segments) (hpath' : other.path = .parts segments')
    (hscheme : other.scheme = base.scheme) (h : leavesHost base.scheme input = true) :
    other.join input = base.join input := by
  unfold leavesHost at h
  cases hs : scheme? (condensed input) with
  | none =>
    rw [hs] at h
    obtain ⟨rest, hrest⟩ := relative_beyond h
    rw [join_without_scheme hs, join_without_scheme hs, hrest _ _ hpath', hrest _ _ hpath, hscheme]
  | some p =>
    obtain ⟨own, rest⟩ := p
    rw [hs] at h
    by_cases hweb : schemeKind own = .web
    · have hno : ¬(hasTwoSlashes rest = false ∧ base.scheme = own) := by
        rintro ⟨hfew, rfl⟩
        simp [hfew] at h
      rw [join_with_scheme hweb hs, join_with_scheme hweb hs, hscheme, if_neg hno, if_neg hno]
    · exact join_elsewhere hweb hs

end Join

section Written

/-- Blanks at the ends of two texts do not matter where the texts meet. -/
theorem condensed_append {c d : Char} {l r : List Char} (hc : isBlankEnd c = false)
    (hd : isBlankEnd d = false) (htabs : ∀ x ∈ c :: l, isTabOrNewline x = false) :
    joined (trimmed (c :: l ++ d :: r)) = c :: l ++ joined (trimmed (d :: r)) := by
  have hfirst : (c :: l ++ d :: r).dropWhile isBlankEnd = c :: l ++ d :: r := by simp [hc]
  have hsecond : (d :: r).dropWhile isBlankEnd = d :: r := by simp [hd]
  have hlast : ((d :: r).reverse.dropWhile isBlankEnd).isEmpty = false := by
    rw [List.isEmpty_eq_false_iff]
    intro hall
    have := List.dropWhile_eq_nil_iff.1 hall d (by simp)
    rw [hd] at this
    cases this
  have htrim : trimmed (c :: l ++ d :: r) = c :: l ++ trimmed (d :: r) := by
    rw [trimmed, trimmed, hfirst, hsecond, List.reverse_append, List.dropWhile_append, hlast]
    simp
  have hkeep : joined (c :: l) = c :: l := List.filter_eq_self.2 fun x hx => by simp [htabs x hx]
  rw [htrim, joined, List.filter_append, ← joined, ← joined, hkeep]

theorem ne_of_isDigit {c d : Char} (hc : isDigit c = true) (hd : isDigit d = false) : c ≠ d := by
  rintro rfl
  rw [hc] at hd
  cases hd

theorem inBase_ten {ds : List Char} (h : ∀ c ∈ ds, isDigit c = true) :
    Numeral.inBase 10 ds = Numeral.value ds := by
  have step : ∀ start, ds.foldl (fun n c => n * 10 + (Numeral.hexDigit? c).getD 0) start =
      ds.foldl (fun n c => n * 10 + (c.toNat - '0'.toNat)) start := by
    intro start
    refine List.foldl_ext _ _ start fun n c hc => ?_
    have hd : Numeral.isDigit c = true := h c hc
    simp [Numeral.hexDigit?, hd]
  exact step 0

/-- A port that is written in digits before a path. -/
theorem port?_toDigits {n : Nat} (hn : n ≤ 65535) (scheme r : List Char)
    (hown : defaultPort? scheme ≠ some n) :
    port? scheme (Nat.toDigits 10 n ++ '/' :: r) = .ok (some n, '/' :: r) := by
  have hdigits : ∀ c ∈ Nat.toDigits 10 n, isDigit c = true :=
    fun c hc => Numeral.isDigit_of_mem_toDigits hc
  have htake : (Nat.toDigits 10 n ++ '/' :: r).takeWhile isDigit = Nat.toDigits 10 n := by
    rw [List.takeWhile_append_of_pos hdigits]
    simp [isDigit]
  have hdrop : (Nat.toDigits 10 n ++ '/' :: r).dropWhile isDigit = '/' :: r := by
    rw [List.dropWhile_append_of_pos hdigits]
    simp [isDigit]
  have hvalue : Numeral.inBase 10 (Nat.toDigits 10 n) = n := by
    rw [inBase_ten hdigits, Numeral.value_toDigits]
  unfold port?
  simp only [htake, hdrop, hvalue]
  rw [if_neg (by omega)]
  simp [isSlash, port?.shown, hown]

theorem plain_of_isDigit {c : Char} (h : isDigit c = true) :
    endsAuthority .web c = false ∧ c ≠ '@' := by
  have hne : ∀ d, isDigit d = false → c ≠ d := fun d => ne_of_isDigit h
  simp [endsAuthority, SchemeKind.isSpecial, hne '/' rfl, hne '?' rfl, hne '#' rfl, hne '\\' rfl,
    hne '@' rfl]

/-- A host that is looked up by name, and a port, before a path. -/
theorem authority?_localhost {n : Nat} (hn : n ≤ 65535) (hown : n ≠ 80) (r : List Char) :
    authority? httpScheme (Config.localhost ++ ':' :: (Nat.toDigits 10 n ++ '/' :: r)) =
      .ok (⟨[], [], .domain Config.localhost, some n⟩, '/' :: r) := by
  let name := Config.localhost ++ ':' :: Nat.toDigits 10 n
  have hplain : ∀ c ∈ name, endsAuthority .web c = false ∧ c ≠ '@' := by
    intro c hc
    have hall : (Config.localhost ++ [':']).all fun d => !endsAuthority .web d && d != '@' := by
      decide
    have hfront : ∀ d ∈ Config.localhost ++ [':'], endsAuthority .web d = false ∧ d ≠ '@' := by
      simpa only [List.all_eq_true, Bool.and_eq_true, Bool.not_eq_true', bne_iff_ne] using hall
    rcases List.mem_append.1 (show c ∈ (Config.localhost ++ [':']) ++ Nat.toDigits 10 n from hc)
      with hc | hc
    · exact hfront c hc
    · exact plain_of_isDigit (Numeral.isDigit_of_mem_toDigits hc)
  have htake : (name ++ '/' :: r).takeWhile (!endsAuthority .web ·) = name := by
    rw [List.takeWhile_append_of_pos fun c hc => by simp [(hplain c hc).1]]
    simp [endsAuthority]
  have hat : lastAt? name = none := by
    have hno : '@' ∉ name := fun h => (hplain _ h).2 rfl
    simp [lastAt?, hno]
  have hinfo : userinfo? .web (name ++ '/' :: r) = .ok ([], [], name ++ '/' :: r) := by
    unfold userinfo?
    simp only [htake, hat]
  have hspan : hostSpan .web false (name ++ '/' :: r) =
      (Config.localhost, ':' :: (Nat.toDigits 10 n ++ '/' :: r)) := rfl
  have hport := port?_toDigits hn httpScheme r
    (show (some 80 : Option Nat) ≠ some n from fun he => hown (Option.some.inj he).symm)
  have hhost : host? .web Config.localhost = .ok (.domain Config.localhost) := rfl
  change authority? httpScheme (name ++ '/' :: r) = _
  unfold authority?
  simp only [show schemeKind httpScheme = .web from rfl, hinfo, bind, Except.bind, hspan, hhost,
    hport]
  rfl

/-- An address on this machine that is written out in full. -/
theorem read_localhost {n : Nat} (hn : n ≤ 65535) (hown : n ≠ 80) {path : String} {r s : List Char}
    (hpath : path.toList = '/' :: s) (hread : condensed path = '/' :: r) :
    read ("http://localhost:" ++ toString n ++ path) =
      .ok ⟨httpScheme, [], [], some (.domain Config.localhost), some n,
        .parts (extendPath .web [] r), (tail .web ('/' :: r)).query,
        (tail .web ('/' :: r)).fragment⟩ := by
  let front := "http://localhost:".toList ++ Nat.toDigits 10 n
  have hchars : ("http://localhost:" ++ toString n ++ path).toList = front ++ path.toList := by
    simp only [String.toList_append, Nat.toString_eq_ofList_toDigits, String.toList_ofList, front]
  have htabs : ∀ c ∈ front, isTabOrNewline c = false := by
    intro c hc
    have hall : "http://localhost:".toList.all (!isTabOrNewline ·) = true := by decide
    rcases List.mem_append.1 hc with hc | hc
    · simpa using List.all_eq_true.1 hall c hc
    · have hne : ∀ d, isDigit d = false → c ≠ d :=
        fun d => ne_of_isDigit (Numeral.isDigit_of_mem_toDigits hc)
      simp [isTabOrNewline, hne '\t' rfl, hne '\n' rfl, hne '\r' rfl]
  have hjoined : joined (trimmed (front ++ path.toList)) = front ++ '/' :: r := by
    have happend := condensed_append (c := 'h') (l := front.tail) (d := '/') (r := s) (by decide)
      (by decide) htabs
    rw [← hread, condensed, hpath]
    exact happend
  have hscheme : scheme? (front ++ '/' :: r) = some (httpScheme,
      '/' :: '/' :: (Config.localhost ++ ':' :: (Nat.toDigits 10 n ++ '/' :: r))) := rfl
  unfold read parse
  simp only [hchars, hjoined, hscheme, show schemeKind httpScheme = .web from rfl]
  change afterSlashes httpScheme
    (Config.localhost ++ ':' :: (Nat.toDigits 10 n ++ '/' :: r)) = _
  unfold afterSlashes
  simp only [bind, Except.bind, authority?_localhost hn hown r]
  rfl

end Written

end Url

namespace Config

theorem healthUrl_of_valid {c : Config} (h : c.validate = .ok ()) : ∃ u, c.healthUrl = .ok u := by
  obtain ⟨target, htarget⟩ := targetUrl_of_valid h
  cases hu : c.healthUrl with
  | ok u => exact ⟨u, rfl⟩
  | error e =>
    rw [Config.validate, htarget, hu] at h
    simp only [bind, Except.bind, throw, throwThe, MonadExceptOf.throw] at h
    repeat (split at h <;> try cases h)

theorem port_of_valid {c : Config} (h : c.validate = .ok ()) : 1024 ≤ c.port.toNat := by
  by_contra hlt
  have hlow : c.port < firstFreePort := UInt16.lt_iff_toNat_lt.2 (by
    rw [show firstFreePort.toNat = 1024 from rfl]; omega)
  rw [Config.validate, if_pos hlow] at h
  cases h

theorem backendUrl_port {c : Config} (h : 1024 ≤ c.port.toNat) :
    c.backendUrl.port = some c.port.toNat := by
  have h80 : c.port ≠ 80 := by
    rintro hp
    rw [hp] at h
    exact absurd h (by decide)
  exact if_neg h80

/-- A path that begins with a slash, and stays, is read as one. -/
theorem join_slash {c : Config} (hport : 1024 ≤ c.port.toNat) {path : String}
    (hslash : path.toList.head? = some '/')
    (hstays : Url.leavesHost Url.httpScheme path = false) :
    Url.read ("http://localhost:" ++ toString c.port.toNat ++ path) = c.backendUrl.join path := by
  obtain ⟨s, hs⟩ := List.head?_eq_some_iff.1 hslash
  obtain ⟨r, hr⟩ := Url.trimmed_slash s
  have hread : Url.condensed path = '/' :: Url.joined r := by
    rw [Url.condensed, hs, hr]
    rfl
  have hscheme : Url.scheme? (Url.condensed path) = none := by rw [hread]; rfl
  have hone : Url.hasTwoSlashes ('/' :: Url.joined r) = false := by
    rw [Url.leavesHost, hscheme, hread] at hstays
    exact hstays
  have hmax : c.port.toNat ≤ 65535 := Nat.le_of_lt_succ c.port.toNat_lt
  rw [Url.read_localhost hmax (by omega) hs hread, Url.join_without_scheme hscheme, hread,
    Url.relative_slash rfl hone, ← backendUrl_port hport]
  rfl

/-- The probe of a sound configuration stays on the backend's scheme, host and port, unless its
path leaves the host; then the address is the same for every port. A path that stays and begins
with a slash is what follows the port in the address as it would be written out. -/
theorem probe_stays_or_leaves {c : Config} (hvalid : c.validate = .ok ()) :
    ∃ u, c.healthUrl = .ok u ∧
      (Url.leavesHost Url.httpScheme c.readiness.healthPath = false →
        (∃ path query fragment,
          u = { c.backendUrl with path := path, query := query, fragment := fragment }) ∧
        u.scheme = Url.httpScheme ∧ u.host = some (.domain localhost) ∧
        u.port = some c.port.toNat ∧
        (c.readiness.healthPath.toList.head? = some '/' →
          Url.read ("http://localhost:" ++ toString c.port.toNat ++ c.readiness.healthPath) =
            .ok u)) ∧
      (Url.leavesHost Url.httpScheme c.readiness.healthPath = true →
        ∀ port, { c with port := port }.healthUrl = .ok u) := by
  have hport := port_of_valid hvalid
  obtain ⟨u, hu⟩ := healthUrl_of_valid hvalid
  have hjoin : c.backendUrl.join c.readiness.healthPath = .ok u := by
    unfold healthUrl at hu
    cases hj : c.backendUrl.join c.readiness.healthPath with
    | error e => rw [hj] at hu; cases hu
    | ok v => rw [hj] at hu; cases hu; rfl
  refine ⟨u, hu, fun hstays => ?_, fun hleaves port => ?_⟩
  · obtain ⟨path, query, fragment, hwithin⟩ : ∃ path query fragment,
        c.backendUrl.join c.readiness.healthPath =
          .ok { c.backendUrl with path := path, query := query, fragment := fragment } :=
      Url.join_within rfl rfl hstays
    rw [hjoin] at hwithin
    cases hwithin
    exact ⟨⟨path, query, fragment, rfl⟩, rfl, rfl, backendUrl_port hport,
      fun hslash => (join_slash hport hslash hstays).trans hjoin⟩
  · have hsame : { c with port := port }.backendUrl.join c.readiness.healthPath =
        c.backendUrl.join c.readiness.healthPath :=
      Url.join_beyond rfl rfl rfl hleaves
    unfold healthUrl
    change asConfigUrl _ ({ c with port := port }.backendUrl.join c.readiness.healthPath) = _
    rw [hsame, hjoin]
    rfl

def roundabout : Config where
  __ := forMode .production
  port := 9123
  readiness := { ReadinessConfig.default with healthPath := "http:health?full" }

/-- The backend's own scheme, without slashes, is no way out. -/
theorem roundabout_probe_stays : roundabout.validate = .ok () ∧
    Url.leavesHost Url.httpScheme roundabout.readiness.healthPath = false ∧
    ∃ u, roundabout.healthUrl = .ok u ∧ u.scheme = Url.httpScheme ∧
      u.host = some (.domain localhost) ∧ u.port = some 9123 := by
  have hvalid : roundabout.validate = .ok () := by rfl
  have hstays : Url.leavesHost Url.httpScheme roundabout.readiness.healthPath = false := by decide
  obtain ⟨u, hu, hwithin, -⟩ := probe_stays_or_leaves hvalid
  obtain ⟨-, hscheme, hhost, hport, -⟩ := hwithin hstays
  exact ⟨hvalid, hstays, u, hu, hscheme, hhost, hport⟩

def elsewhere : Config where
  __ := forMode .production
  readiness := { ReadinessConfig.default with healthPath := "//elsewhere/docs" }

/-- A path with two slashes is accepted, and asks another host. -/
theorem probe_asks_elsewhere : elsewhere.validate = .ok () ∧
    ∃ u, elsewhere.healthUrl = .ok u ∧ u.host = some (.domain "elsewhere".toList) ∧
      u.port = none := by
  refine ⟨by rfl, ⟨Url.httpScheme, [], [], some (.domain "elsewhere".toList), none,
    .parts ["docs".toList], none, none⟩, by rfl, rfl, rfl⟩

end Config

end DesktopHost
