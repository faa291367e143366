import DesktopHost.Config
import DesktopHost.Shell.Navigation

/-!
The window on its own page. A page stays in the window only if it shares an origin with itself, and
not every address that a configuration may name does.
-/

set_option autoImplicit false

namespace DesktopHost

namespace Url

/-- Web addresses have an origin to share, and so have the objects made by their pages. -/
inductive Shares : Url → Prop
  | web {u : Url} (kind : schemeKind u.scheme = .web) : Shares u
  | object {u inner : Url} (scheme : u.scheme = blobScheme)
      (within : read (String.ofList (pathChars u.path)) = .ok inner) (shares : inner.Shares) :
      Shares u

namespace Percent

theorem upperHex_isPlain : ∀ n < 16, isControl (upperHex n) = false := by decide

theorem isControl_of_mem_codeByte {b : UInt8} {c : Char} (h : c ∈ codeByte b) :
    isControl c = false := by
  have hb : b.toNat < 256 := b.toNat_lt
  simp only [codeByte, List.mem_cons, List.not_mem_nil, or_false] at h
  rcases h with rfl | rfl | rfl
  · rfl
  · exact upperHex_isPlain _ (by omega)
  · exact upperHex_isPlain _ (by omega)

/-- What has been coded is printable. -/
theorem isControl_of_mem_code {cs : List Char} {c : Char} (h : c ∈ code isControl cs) :
    isControl c = false := by
  obtain ⟨a, -, hc⟩ := List.mem_flatMap.1 h
  cases ha : isControl a with
  | true =>
    rw [ha, if_pos rfl] at hc
    obtain ⟨b, -, hb⟩ := List.mem_flatMap.1 hc
    exact isControl_of_mem_codeByte hb
  | false =>
    rw [ha, if_neg (by simp), List.mem_singleton] at hc
    exact hc ▸ ha

end Percent

section Reading

theorem trimmed_sublist (cs : List Char) : (trimmed cs).Sublist cs := by
  have h : ((cs.dropWhile isBlankEnd).reverse.dropWhile isBlankEnd).reverse.Sublist
      (cs.dropWhile isBlankEnd).reverse.reverse :=
    (List.dropWhile_sublist _).reverse
  rw [List.reverse_reverse] at h
  exact h.trans (List.dropWhile_sublist _)

/-- What follows a scheme stands behind a colon of the text. -/
theorem sublist_of_scheme? {cs scheme rest : List Char} (h : scheme? cs = some (scheme, rest)) :
    (':' :: rest).Sublist cs := by
  unfold scheme? at h
  split at h
  · cases h
  · split at h
    · split at h
      · rename_i hdrop
        cases h
        rw [← hdrop]
        exact List.dropWhile_sublist _
      · cases h
    · cases h

theorem afterSlashes_host {scheme cs : List Char} {u : Url} (h : afterSlashes scheme cs = .ok u) :
    (∃ host, u.host = some host) ∧ ∃ segments, u.path = .parts segments := by
  unfold afterSlashes at h
  cases ha : authority? scheme cs with
  | error e => rw [ha] at h; cases h
  | ok a => rw [ha] at h; cases h; exact ⟨⟨_, rfl⟩, _, rfl⟩

theorem fileUrl_host {cs : List Char} {u : Url} (h : fileUrl cs = .ok u) :
    (∃ host, u.host = some host) ∧ ∃ segments, u.path = .parts segments := by
  unfold fileUrl at h
  cases hs : (afterSlash? cs).bind afterSlash? with
  | none => rw [hs] at h; cases h; exact ⟨⟨_, rfl⟩, _, rfl⟩
  | some rest =>
    rw [hs] at h
    cases hf : hostedFile rest with
    | error e => simp only [hf] at h; cases h
    | ok p => simp only [hf] at h; cases h; exact ⟨⟨_, rfl⟩, _, rfl⟩

/-- An address has a host and a path of parts, or else a free scheme. -/
theorem read_cases {s : String} {u : Url} (h : read s = .ok u) :
    ((∃ host, u.host = some host) ∧ ∃ segments, u.path = .parts segments) ∨
      ∃ scheme rest, scheme? (joined (trimmed s.toList)) = some (scheme, rest) ∧
        schemeKind scheme = .free ∧ u = withoutHost scheme rest := by
  unfold read parse at h
  simp only at h
  cases hs : scheme? (joined (trimmed s.toList)) with
  | none => rw [hs] at h; cases h
  | some p =>
    obtain ⟨scheme, rest⟩ := p
    rw [hs] at h
    simp only at h
    cases hk : schemeKind scheme with
    | file => rw [hk] at h; exact .inl (fileUrl_host h)
    | web => rw [hk] at h; exact .inl (afterSlashes_host h)
    | free =>
      rw [hk] at h
      simp only at h
      split at h
      · exact .inl (afterSlashes_host h)
      · cases h
        exact .inr ⟨scheme, rest, rfl, hk, rfl⟩

theorem host_of_web {s : String} {u : Url} (h : read s = .ok u)
    (hk : schemeKind u.scheme = .web) : ∃ host, u.host = some host := by
  rcases read_cases h with ⟨hhost, -⟩ | ⟨scheme, rest, -, hfree, rfl⟩
  · exact hhost
  · rw [show (withoutHost scheme rest).scheme = scheme from rfl, hfree] at hk
    cases hk

/-- An undivided path is coded text from behind the scheme. -/
theorem read_whole {s : String} {u : Url} {t : List Char} (h : read s = .ok u)
    (ht : u.path = .whole t) :
    ∃ rest, (':' :: rest).Sublist s.toList ∧ t = Percent.code Percent.isControl rest := by
  rcases read_cases h with ⟨-, segments, hp⟩ | ⟨scheme, rest, hs, -, rfl⟩
  · rw [hp] at ht; cases ht
  · have hsub : (':' :: rest).Sublist s.toList :=
      ((sublist_of_scheme? hs).trans List.filter_sublist).trans (trimmed_sublist _)
    refine ⟨rest.takeWhile isPathChar, ?_, ?_⟩
    · exact ((List.takeWhile_sublist _).cons_cons _).trans hsub
    · simp only [withoutHost] at ht
      split at ht
      · cases ht
      · cases ht; rfl

/-- Text that has been coded before gives a shorter one. -/
theorem whole_length_lt {cs t : List Char} {u : Url} (h : read (String.ofList cs) = .ok u)
    (ht : u.path = .whole t) (hplain : ∀ c ∈ cs, Percent.isControl c = false) :
    t.length < cs.length := by
  obtain ⟨rest, hsub, rfl⟩ := read_whole h ht
  rw [String.toList_ofList] at hsub
  have hrest : Percent.code Percent.isControl rest = rest :=
    Percent.code_eq_self _ _ fun c hc => hplain c (hsub.subset (List.mem_cons_of_mem _ hc))
  rw [hrest]
  exact hsub.length_le

theorem trimmed_slash (cs : List Char) : ∃ rest, trimmed ('/' :: cs) = '/' :: rest := by
  have hslash : isBlankEnd '/' = false := by decide
  have h : ('/' :: cs).dropWhile isBlankEnd = '/' :: cs := by simp [hslash]
  rw [trimmed, h, List.reverse_cons, List.dropWhile_append]
  split
  · exact ⟨[], by simp [hslash]⟩
  · exact ⟨(cs.reverse.dropWhile isBlankEnd).reverse, by simp⟩

/-- A path of parts begins with a slash, and so is no address by itself. -/
theorem read_parts (segments : List (List Char)) :
    read (String.ofList (pathChars (.parts segments))) = .error .relativeWithoutBase := by
  have hscheme : scheme? (joined (trimmed (pathChars (.parts segments)))) = none := by
    cases segments with
    | nil => rfl
    | cons s rest =>
      obtain ⟨r, hr⟩ := trimmed_slash (s ++ rest.flatMap ('/' :: ·))
      have hj : joined ('/' :: r) = '/' :: joined r := by simp [joined, isTabOrNewline]
      change scheme? (joined (trimmed ('/' :: (s ++ rest.flatMap ('/' :: ·))))) = none
      rw [hr, hj]
      rfl
  unfold read parse
  simp only [String.toList_ofList, hscheme]

end Reading

theorem scheme_ne_blob_of_web {u : Url} (h : schemeKind u.scheme = .web) :
    (u.scheme == blobScheme) = false := by
  rw [beq_eq_false_iff_ne]
  intro hs
  rw [hs] at h
  exact absurd h (by decide)

theorem shares_of_originWithin {n : Nat} {u : Url} (h : originWithin n u ≠ .unshared) :
    u.Shares := by
  have own : ∀ v : Url, v.ownOrigin ≠ .unshared → v.Shares := by
    intro v hv
    unfold ownOrigin at hv
    split at hv
    · exact .web ‹_›
    · exact absurd rfl hv
  induction n generalizing u with
  | zero => exact own u h
  | succ n ih =>
    unfold originWithin at h
    split at h
    · rename_i hblob
      split at h
      · rename_i inner hread
        exact .object (by simpa using hblob) hread (ih h)
      · exact absurd rfl h
    · exact own u h

theorem originWithin_of_web {s : String} {u : Url} (h : read s = .ok u)
    (hk : schemeKind u.scheme = .web) (n : Nat) : originWithin n u ≠ .unshared := by
  obtain ⟨host, hhost⟩ := host_of_web h hk
  have hown : u.ownOrigin ≠ .unshared := by simp [ownOrigin, hk, hhost]
  cases n with
  | zero => exact hown
  | succ n => simpa [originWithin, scheme_ne_blob_of_web hk] using hown

/-- The layers of an object's address are counted by its path: each one is shorter than the one
around it. -/
theorem originWithin_of_shares {u : Url} (h : u.Shares) {s : String} (hs : read s = .ok u)
    {n : Nat} (hn : ∀ t, u.path = .whole t → t.length ≤ n) : originWithin n u ≠ .unshared := by
  induction h generalizing s n with
  | web kind => exact originWithin_of_web hs kind n
  | @object u inner scheme within _ ih =>
    cases hp : u.path with
    | parts segments =>
      rw [hp, read_parts] at within
      cases within
    | whole t =>
      have hplain : ∀ c ∈ t, Percent.isControl c = false := by
        obtain ⟨rest, -, rfl⟩ := read_whole hs hp
        exact fun c => Percent.isControl_of_mem_code
      have hwithin : read (String.ofList t) = .ok inner := by rwa [hp] at within
      have hshorter : ∀ t', inner.path = .whole t' → t'.length < t.length :=
        fun t' ht' => whole_length_lt hwithin ht' hplain
      have htn := hn t hp
      cases n with
      | zero =>
        obtain rfl : t = [] := List.length_eq_zero_iff.1 (by omega)
        cases hwithin
      | succ n =>
        have hb : (u.scheme == blobScheme) = true := by simp [scheme]
        rw [originWithin, if_pos hb, within]
        exact ih within fun t' ht' => by have := hshorter t' ht'; omega

theorem origin_ne_unshared_iff {s : String} {u : Url} (h : read s = .ok u) :
    u.origin ≠ .unshared ↔ u.Shares := by
  refine ⟨shares_of_originWithin, fun hu => originWithin_of_shares hu h ?_⟩
  intro t ht
  rw [ht]
  exact Nat.le_refl _

theorem sameOrigin_self_iff (u : Url) : sameOrigin u u = true ↔ u.origin ≠ .unshared := by
  unfold sameOrigin
  cases u.origin <;> simp

end Url

namespace Config

theorem targetUrl_of_valid {c : Config} (h : c.validate = .ok ()) : ∃ u, c.targetUrl = .ok u := by
  cases hu : c.targetUrl with
  | ok u => exact ⟨u, rfl⟩
  | error e =>
    rw [Config.validate, hu] at h
    simp only [bind, Except.bind, throw, throwThe, MonadExceptOf.throw] at h
    repeat (split at h <;> try cases h)

/-- The target of a configuration has been read as an address, or is the backend's own. -/
theorem targetUrl_origin {c : Config} {u : Url} (h : c.targetUrl = .ok u) :
    u.origin ≠ .unshared ↔ u.Shares := by
  unfold targetUrl at h
  split at h
  · cases hr : Url.read c.devFrontendUrl with
    | error e => rw [hr] at h; cases h
    | ok v => rw [hr] at h; cases h; exact Url.origin_ne_unshared_iff hr
  · cases h
    exact ⟨Url.shares_of_originWithin, fun _ => nofun⟩

end Config

namespace Shell

/-- The window of a sound configuration may show its own page if that page has an origin to share,
as the backend's has; otherwise the page is refused and handed to the system's browser. -/
theorem own_page_shown {c : Config} (hvalid : c.validate = .ok ()) :
    ∃ page, c.targetUrl = .ok page ∧
      (page.Shares → mayNavigate page page = true ∧ browsedFor page page = []) ∧
      (¬page.Shares → mayNavigate page page = false ∧ browsedFor page page = [page.text]) ∧
      (c.mode = .production → page.Shares) := by
  obtain ⟨page, hpage⟩ := Config.targetUrl_of_valid hvalid
  have hmay : mayNavigate page page = true ↔ page.Shares :=
    (Url.sameOrigin_self_iff page).trans (Config.targetUrl_origin hpage)
  refine ⟨page, hpage, fun h => ?_, fun h => ?_, fun h => ?_⟩
  · have ht := hmay.2 h
    exact ⟨ht, (browsedFor_eq_nil_iff page page).2 ht⟩
  · have hf : mayNavigate page page = false := by simpa using mt hmay.1 h
    exact ⟨hf, by simp [browsedFor, hf]⟩
  · rw [Config.targetUrl, h] at hpage
    cases hpage
    exact .web rfl

theorem backend_page_shown : ∃ page, (Config.forMode .production).targetUrl = .ok page ∧
    mayNavigate page page = true ∧ browsedFor page page = [] := by
  obtain ⟨page, hpage, hshown, -, hshares⟩ :=
    own_page_shown (c := .forMode .production) (by rfl)
  exact ⟨page, hpage, hshown (hshares rfl)⟩

def fromFiles : Config := { Config.forMode .development with devFrontendUrl := "file:///srv/ui.html" }

/-- A frontend on disk is accepted as a target, and the window on it may not show it. -/
theorem file_page_refused : fromFiles.validate = .ok () ∧
    ∃ page, fromFiles.targetUrl = .ok page ∧ mayNavigate page page = false ∧
      browsedFor page page = ["file:///srv/ui.html"] := by
  refine ⟨by rfl, ⟨Url.fileScheme, [], [], some .blank, none,
    .parts [['s', 'r', 'v'], ['u', 'i', '.', 'h', 't', 'm', 'l']], none, none⟩, ?_⟩
  exact ⟨by rfl, by decide +kernel, by decide +kernel⟩

end Shell
end DesktopHost
