import DesktopHost.Proofs.Agreement
import DesktopHost.Proofs.Decoding
import Mathlib.Data.List.Perm.Basic

/-!
Options written as arguments and read again. Each option that is given settles one field, whatever
its value looks like, so that their order means nothing; the environment is asked for what is left.
-/

set_option autoImplicit false

namespace DesktopHost

/-- An option that is given on the command line, with its value. -/
inductive Given where
  | switch (s : Switch)
  | port (p : UInt16)
  | backendPath (path : String)
  | devUrl (url : String)
  | shutdownGrace (ms : UInt64)
  deriving DecidableEq, Repr

namespace Given

def attached (s : Setting) (value : String) : String := "--" ++ s.name ++ "=" ++ value

def written : Given → String
  | .switch s => "--" ++ s.name
  | .port p => attached .port (toString p.toNat)
  | .backendPath path => attached .backendPath path
  | .devUrl url => attached .devUrl url
  | .shutdownGrace ms => attached .shutdownGrace (toString ms.toNat)

/-- The ways to write an option; one switch has a short name too. -/
inductive Spells : Given → String → Prop
  | long (g : Given) : Spells g g.written
  | short : Spells (.switch .verbose) "-v"

/-- A path that is given has a name in it. -/
def isSound : Given → Bool
  | .backendPath path => path != ""
  | _ => true

/-- Whether two options settle the same field. -/
def sameField : Given → Given → Bool
  | .switch s, .switch t => s == t
  | .port _, .port _ | .backendPath _, .backendPath _ | .devUrl _, .devUrl _ => true
  | .shutdownGrace _, .shutdownGrace _ => true
  | _, _ => false

end Given

namespace Options

def put (o : Options) : Given → Options
  | .switch s => o.turnOn s
  | .port p => { o with port := some p }
  | .backendPath path => { o with backendPath := some (Utf8.encode path) }
  | .devUrl url => { o with devUrl := some url }
  | .shutdownGrace ms => { o with shutdownGrace := some ms }

/-- Whether the field of an option is settled. -/
def holds (o : Options) : Given → Bool
  | .switch s => o.isOn s
  | .port _ => o.has .port
  | .backendPath _ => o.has .backendPath
  | .devUrl _ => o.has .devUrl
  | .shutdownGrace _ => o.has .shutdownGrace

theorem holds_put (o : Options) (g h : Given) :
    (o.put g).holds h = (g.sameField h || o.holds h) := by
  cases g with
  | switch s =>
    cases h with
    | switch t => cases s <;> cases t <;> rfl
    | _ => cases s <;> rfl
  | _ => cases h <;> rfl

theorem holds_none (g : Given) : Options.none.holds g = false := by
  cases g with
  | switch s => cases s <;> rfl
  | _ => rfl

/-- Options for different fields may change places. -/
theorem put_comm (o : Options) {g h : Given} (hne : g.sameField h = false) :
    (o.put g).put h = (o.put h).put g := by
  cases g with
  | switch s =>
    cases h with
    | switch t => cases s <;> cases t <;> rfl
    | _ => cases s <;> rfl
  | _ =>
    cases h with
    | switch t => cases t <;> rfl
    | _ => first | rfl | cases hne

section Reading

theorem asText_encode (s : String) : asText (Utf8.encode s) = .ok s := by
  simp [asText, Utf8.decode?_encode]

theorem port?_encode (p : UInt16) : port? (Utf8.encode (toString p.toNat)) = .ok p := by
  have hp : p.toNat ≤ 65535 := Nat.le_of_lt_succ p.toNat_lt
  have hread : Numeral.signed? (toString p.toNat).toList = some (p.toNat : Int) := by
    rw [Nat.toString_eq_ofList_toDigits, String.toList_ofList]
    exact Numeral.signed?_toDigits (by omega)
  unfold port?
  rw [asText_encode]
  simp only [bind, Except.bind, hread]
  rw [if_pos ⟨by omega, by omega⟩, Int.toNat_natCast, UInt16.ofNat_toNat]
  rfl

theorem grace?_encode (ms : UInt64) : grace? (Utf8.encode (toString ms.toNat)) = .ok ms := by
  have hread : Numeral.unsigned? 18446744073709551615 (toString ms.toNat).toList =
      some ms.toNat := by
    rw [Nat.toString_eq_ofList_toDigits, String.toList_ofList]
    exact Numeral.unsigned?_toDigits (Nat.le_of_lt_succ ms.toNat_lt)
  unfold grace?
  rw [asText_encode]
  simp only [bind, Except.bind, hread, UInt64.ofNat_toNat]
  rfl

theorem path?_encode {path : String} (h : path ≠ "") :
    path? (Utf8.encode path) = .ok (Utf8.encode path) := by
  have hne : Utf8.encode path ≠ [] := by
    intro hnil
    have hscan := Utf8.scan_encodeChars path.toList []
    rw [← Utf8.encode, hnil] at hscan
    exact h (by simpa using hscan.symm)
  simp [path?, hne]

end Reading

end Options

namespace ArgumentReader

open Options Given

/-- A reader that has read some options and waits for no value. -/
def having (o : Options) : ArgumentReader := ⟨o, none, false⟩

theorem attach_having (o : Options) (s : Setting) (v : Bytes) :
    (having o).attach s v = (orFault (o.assignOnce s v)).map having := by
  change (do let o ← orFault (o.assignOnce s v); return having o) = _
  cases orFault (o.assignOnce s v) <;> rfl

theorem turnOn_having (o : Options) (s : Switch) :
    (having o).turnOn s = (orFault (o.turnOnOnce s)).map having := by
  change (do let o ← orFault (o.turnOnOnce s); return having o) = _
  cases orFault (o.turnOnOnce s) <;> rfl

/-- The name ends at the first equals sign, whatever the value holds. -/
theorem read_attached {o : Options} {s : Setting} (hopen : o.has s = false) (value : String) :
    (having o).read (attached s value).toList =
      (orFault (o.assign s (Utf8.encode value))).map having := by
  have hchars : (attached s value).toList =
      '-' :: '-' :: (s.name.toList ++ '=' :: value.toList) := by
    simp [attached]
  have hname : '=' ∉ s.name.toList := by cases s <;> decide
  have hlong : ArgumentForm.ofChars (attached s value).toList =
      .long s.name.toList (some value.toList) := by
    let cut := ArgumentForm.cutValue (s.name.toList ++ '=' :: value.toList)
    calc ArgumentForm.ofChars (attached s value).toList
        = .long cut.1 cut.2 := by rw [hchars]; cases s <;> rfl
      _ = .long s.name.toList (some value.toList) := by
        simp only [cut, ArgumentForm.cutValue_append _ value.toList hname]
  have hlookup : longOptions.lookup s.name.toList = some (.setting s) := by
    cases s <;> rfl
  have honce : o.assignOnce s (Utf8.encode value) = o.assign s (Utf8.encode value) := by
    simp [assignOnce, hopen]
  rw [← honce, ← attach_having]
  simp only [read, having, hlong, readLong, hlookup]
  rfl

theorem read_switch (o : Options) (s : Switch) {a : String} (h : Spells (.switch s) a) :
    (having o).read a.toList = (orFault (o.turnOnOnce s)).map having := by
  rw [← turnOn_having]
  cases h with
  | long => cases s <;> rfl
  | short =>
    change ((having o).turnOn .verbose).bind (fun r => readCluster r []) = _
    cases (having o).turnOn .verbose <;> rfl

/-- An option that is written out is read back into its field. -/
theorem read_spelled {o : Options} {g : Given} {a : String} (hg : g.isSound = true)
    (hopen : o.holds g = false) (ha : Spells g a) :
    (having o).read a.toList = .ok (having (o.put g)) := by
  cases g with
  | switch s =>
    rw [read_switch o s ha, turnOnOnce, show o.isOn s = false from hopen]
    rfl
  | port p =>
    cases ha
    rw [written, read_attached (s := .port) hopen, assign, port?_encode]
    rfl
  | backendPath path =>
    cases ha
    rw [written, read_attached (s := .backendPath) hopen, assign,
      path?_encode (by simpa [isSound] using hg)]
    rfl
  | devUrl url =>
    cases ha
    rw [written, read_attached (s := .devUrl) hopen, assign, asText_encode]
    rfl
  | shutdownGrace ms =>
    cases ha
    rw [written, read_attached (s := .shutdownGrace) hopen, assign, grace?_encode]
    rfl

/-- Options for different fields are read one after the other. -/
theorem foldlM_spelled {o : Options} {gs : List Given} {as : List String}
    (hsound : ∀ g ∈ gs, g.isSound = true) (hfields : gs.Pairwise (·.sameField · = false))
    (hopen : ∀ g ∈ gs, o.holds g = false) (has : List.Forall₂ Spells gs as) :
    as.foldlM (fun r a => r.read a.toList) (having o) = .ok (having (gs.foldl put o)) := by
  induction has generalizing o with
  | nil => rfl
  | @cons g a gs as ha _ ih =>
    obtain ⟨hg, hrest⟩ := List.pairwise_cons.1 hfields
    have hread := read_spelled (hsound g List.mem_cons_self) (hopen g List.mem_cons_self) ha
    rw [List.foldlM_cons, hread]
    refine ih (fun h hh => hsound h (List.mem_cons_of_mem _ hh)) hrest fun h hh => ?_
    rw [holds_put, hg h hh, hopen h (List.mem_cons_of_mem _ hh)]
    rfl

end ArgumentReader

theorem Given.sameField_comm (g h : Given) : g.sameField h = h.sameField g := by
  cases g with
  | switch s =>
    cases h with
    | switch t => cases s <;> cases t <;> rfl
    | _ => rfl
  | _ => cases h <;> rfl

/-- What someone may choose on the command line: any switches, and a value for any setting. -/
structure Choice where
  dev : Bool
  headless : Bool
  verbose : Bool
  port : Option UInt16
  backendPath : Option String
  devUrl : Option String
  shutdownGrace : Option UInt64
  backendPath_ne : backendPath ≠ some ""

namespace Choice

def given (c : Choice) : List Given :=
  (if c.dev then [.switch .dev] else []) ++ (if c.headless then [.switch .headless] else []) ++
    (if c.verbose then [.switch .verbose] else []) ++ (c.port.map .port).toList ++
    (c.backendPath.map .backendPath).toList ++ (c.devUrl.map .devUrl).toList ++
    (c.shutdownGrace.map .shutdownGrace).toList

/-- The chosen options alone. -/
def options (c : Choice) : Options where
  dev := c.dev
  port := c.port
  backendPath := c.backendPath.map Utf8.encode
  devUrl := c.devUrl
  shutdownGrace := c.shutdownGrace
  headless := c.headless
  verbose := c.verbose

theorem isSound_of_mem_given {c : Choice} {g : Given} (h : g ∈ c.given) : g.isSound = true := by
  cases g with
  | backendPath path =>
    have hpath : c.backendPath = some path := by simpa [given] using h
    have hne : path ≠ "" := fun he => c.backendPath_ne (he ▸ hpath)
    simpa [Given.isSound] using hne
  | _ => rfl

/-- No field is settled twice. -/
theorem eq_of_sameField {c : Choice} {g h : Given} (hg : g ∈ c.given) (hh : h ∈ c.given)
    (hs : g.sameField h = true) : g = h := by
  cases g <;> cases h <;> simp_all [given, Given.sameField]

theorem pairwise_given (c : Choice) : c.given.Pairwise (·.sameField · = false) := by
  have value : ∀ {α : Type} (x : Option α) (f : α → Given) (a : α),
      ((x.map f).toList).Sublist [f (x.getD a)] := by
    intro α x f a
    cases x <;> simp
  have flag : ∀ (b : Bool) (g : Given), (if b then [g] else []).Sublist [g] := by
    intro b g
    cases b <;> simp
  have hsub : c.given.Sublist ([.switch .dev] ++ [.switch .headless] ++ [.switch .verbose] ++
      [.port (c.port.getD 0)] ++ [.backendPath (c.backendPath.getD "")] ++
      [.devUrl (c.devUrl.getD "")] ++ [.shutdownGrace (c.shutdownGrace.getD 0)]) :=
    ((((((flag _ _).append (flag _ _)).append (flag _ _)).append (value _ _ _)).append
      (value _ _ _)).append (value _ _ _)).append (value _ _ _)
  refine List.Pairwise.sublist hsub ?_
  simp [Given.sameField]

theorem foldl_given (c : Choice) : c.given.foldl Options.put .none = c.options := by
  obtain ⟨dev, headless, verbose, port, path, url, grace, -⟩ := c
  cases dev <;> cases headless <;> cases verbose <;> cases port <;> cases path <;> cases url <;>
    cases grace <;> rfl

variable {c : Choice} {gs : List Given} {as : List String}

theorem pairwise_of_perm (h : gs.Perm c.given) : gs.Pairwise (·.sameField · = false) :=
  (h.pairwise_iff fun {g h} hgh => by rwa [Given.sameField_comm] at hgh).2 c.pairwise_given

theorem foldl_of_perm (h : gs.Perm c.given) : gs.foldl Options.put .none = c.options := by
  rw [← foldl_given]
  refine h.foldl_eq' (fun g hg g' hg' o => ?_) _
  cases hs : g.sameField g' with
  | false => exact Options.put_comm o hs
  | true => rw [eq_of_sameField (h.mem_iff.1 hg) (h.mem_iff.1 hg') hs]

/-- In whatever order they stand, the arguments say what was chosen. -/
theorem read_chosen (env : Environment) (hgs : gs.Perm c.given)
    (has : List.Forall₂ Given.Spells gs as) :
    Options.read env as = ArgumentReader.orFault (c.options.inheritAll env) := by
  have hread := ArgumentReader.foldlM_spelled (o := .none)
    (fun g hg => isSound_of_mem_given (hgs.mem_iff.1 hg)) (pairwise_of_perm hgs)
    (fun g _ => Options.holds_none g) has
  rw [foldl_of_perm hgs] at hread
  unfold Options.read
  rw [show ArgumentReader.new = ArgumentReader.having .none from rfl, hread]
  rfl

end Choice

/-- Whether a value will do for a setting. -/
def Setting.accepts (s : Setting) (v : Bytes) : Bool := (Options.none.assign s v).isOk

namespace Options

variable {α : Type} {env : Environment} {s : Setting} {parse : Bytes → Except ArgumentError α}

/-- What becomes of a field: the value that was chosen, or else that of its variable, if set. -/
def Settled (env : Environment) (s : Setting) (parse : Bytes → Except ArgumentError α) :
    Option α → Option α → Prop
  | some a, result => result = some a
  | .none, result =>
    match given? env s with
    | some v => ∃ a, parse v = .ok a ∧ result = some a
    | .none => result = .none

/-- Reads a field that was not chosen from its variable, and looks at no other. -/
def fallBack (env : Environment) (s : Setting) (parse : Bytes → Except ArgumentError α) :
    Option α → Except ArgumentError (Option α)
  | some a => .ok (some a)
  | .none => (given? env s).mapM parse

theorem fallBack_settled {chosen : Option α}
    (h : chosen = .none → ∀ v, given? env s = some v → (parse v).isOk = true) :
    ∃ result, fallBack env s parse chosen = .ok result ∧ Settled env s parse chosen result := by
  cases chosen with
  | some a => exact ⟨some a, rfl, rfl⟩
  | none =>
    cases hv : given? env s with
    | none => exact ⟨.none, by rw [fallBack, hv]; rfl, by simp [Settled, hv]⟩
    | some v =>
      have hok := h rfl v hv
      cases hp : parse v with
      | error e => rw [hp] at hok; cases hok
      | ok a =>
        refine ⟨some a, mapM_eq_ok_iff.2 (.inr ⟨v, a, hv, hp, rfl⟩), ?_⟩
        simp [Settled, hv, hp]

theorem fallBack_refused {v : Bytes} (hv : given? env s = some v) (h : (parse v).isOk = false) :
    ∃ e, fallBack env s parse .none = .error e := by
  cases hf : fallBack env s parse .none with
  | error e => exact ⟨e, rfl⟩
  | ok r =>
    rcases mapM_eq_ok_iff.1 hf with ⟨hn, -⟩ | ⟨w, a, hw, hp, -⟩
    · rw [hv] at hn; cases hn
    · rw [hv] at hw
      cases hw
      rw [hp] at h
      cases h

theorem inherit_fallBack (set : Option α → Options) (chosen : Option α)
    (hhas : ∀ x, (set x).has s = x.isSome)
    (hassign : ∀ v, (set .none).assign s v = (parse v).map fun a => set (some a)) :
    (set chosen).inherit env s = (fallBack env s parse chosen).map set := by
  cases chosen with
  | none => exact inherit_eq parse set (hhas .none) rfl hassign
  | some a =>
    have hset : (set (some a)).has s = true := hhas (some a)
    rw [inherit, hset]
    rfl

theorem inherit_without_variable (o : Options) : o.inherit env .shutdownGrace = .ok o := by
  unfold inherit
  split <;> rfl

theorem inheritAll_chosen (env : Environment) (c : Choice) : c.options.inheritAll env = do
    let port ← fallBack env .port port? c.port
    let path ← fallBack env .backendPath path? (c.backendPath.map Utf8.encode)
    let url ← fallBack env .devUrl asText c.devUrl
    return { c.options with port := port, backendPath := path, devUrl := url } := by
  have hport : c.options.inherit env .port =
      (fallBack env .port port? c.port).map fun p => { c.options with port := p } :=
    inherit_fallBack (fun p => { c.options with port := p }) c.port (fun _ => rfl) fun _ => rfl
  have hpath (p : Option UInt16) : inherit env { c.options with port := p } .backendPath =
      (fallBack env .backendPath path? (c.backendPath.map Utf8.encode)).map fun q =>
        { c.options with port := p, backendPath := q } :=
    inherit_fallBack (fun q => { c.options with port := p, backendPath := q }) _
      (fun _ => rfl) fun _ => rfl
  have hurl (p : Option UInt16) (q : Option Path) :
      inherit env { c.options with port := p, backendPath := q } .devUrl =
        (fallBack env .devUrl asText c.devUrl).map fun u =>
          { c.options with port := p, backendPath := q, devUrl := u } :=
    inherit_fallBack (fun u => { c.options with port := p, backendPath := q, devUrl := u }) _
      (fun _ => rfl) fun _ => rfl
  simp only [inheritAll, Setting.all, List.foldlM_cons, List.foldlM_nil, bind, Except.bind, hport]
  cases fallBack env .port port? c.port with
  | error e => rfl
  | ok port =>
    simp only [Except.map, hpath]
    cases fallBack env .backendPath path? (c.backendPath.map Utf8.encode) with
    | error e => rfl
    | ok path =>
      simp only [Except.map, hurl]
      cases fallBack env .devUrl asText c.devUrl with
      | error e => rfl
      | ok url =>
        simp only [inherit_without_variable]

theorem accepts_port (v : Bytes) : Setting.port.accepts v = (port? v).isOk := by
  unfold Setting.accepts assign
  cases port? v <;> rfl

theorem accepts_backendPath (v : Bytes) : Setting.backendPath.accepts v = (path? v).isOk := by
  unfold Setting.accepts assign
  cases path? v <;> rfl

theorem accepts_devUrl (v : Bytes) : Setting.devUrl.accepts v = (asText v).isOk := by
  unfold Setting.accepts assign
  cases asText v <;> rfl

theorem bind_refused {ε β : Type} {x : Except ε α} {f : α → Except ε β}
    (h : ∀ a, ∃ e, f a = .error e) : ∃ e, (x >>= f) = .error e := by
  cases x with
  | error e => exact ⟨e, rfl⟩
  | ok a => exact h a

variable {c : Choice} {gs : List Given} {as : List String}

theorem inheritAll_sound
    (h : ∀ s v, c.options.has s = false → given? env s = some v → s.accepts v = true) :
    ∃ port path url,
      c.options.inheritAll env =
        .ok { c.options with port := port, backendPath := path, devUrl := url } ∧
      Settled env .port port? c.port port ∧
      Settled env .backendPath path? (c.backendPath.map Utf8.encode) path ∧
      Settled env .devUrl asText c.devUrl url := by
  have hport : c.port = .none → ∀ v, given? env .port = some v → (port? v).isOk = true :=
    fun hn v hv => accepts_port v ▸ h .port v (congrArg Option.isSome hn) hv
  have hpath : c.backendPath.map Utf8.encode = .none → ∀ v, given? env .backendPath = some v →
      (path? v).isOk = true :=
    fun hn v hv => accepts_backendPath v ▸ h .backendPath v (congrArg Option.isSome hn) hv
  have hurl : c.devUrl = .none → ∀ v, given? env .devUrl = some v → (asText v).isOk = true :=
    fun hn v hv => accepts_devUrl v ▸ h .devUrl v (congrArg Option.isSome hn) hv
  obtain ⟨port, hport, sport⟩ := fallBack_settled hport
  obtain ⟨path, hpath, spath⟩ := fallBack_settled hpath
  obtain ⟨url, hurl, surl⟩ := fallBack_settled hurl
  refine ⟨port, path, url, ?_, sport, spath, surl⟩
  rw [inheritAll_chosen, hport, hpath, hurl]
  rfl

theorem inheritAll_refused {v : Bytes} (hopen : c.options.has s = false)
    (hv : given? env s = some v) (hbad : s.accepts v = false) :
    ∃ e, c.options.inheritAll env = .error e := by
  rw [inheritAll_chosen]
  cases s with
  | port =>
    have hn : c.port = .none := Option.not_isSome_iff_eq_none.1 (Bool.eq_false_iff.1 hopen)
    have hfails : (port? v).isOk = false := accepts_port v ▸ hbad
    obtain ⟨e, he⟩ := fallBack_refused hv hfails
    exact ⟨e, by rw [hn, he]; rfl⟩
  | backendPath =>
    have hn : c.backendPath.map Utf8.encode = .none :=
      Option.not_isSome_iff_eq_none.1 (Bool.eq_false_iff.1 hopen)
    have hfails : (path? v).isOk = false := accepts_backendPath v ▸ hbad
    obtain ⟨e, he⟩ := fallBack_refused hv hfails
    exact bind_refused fun port => ⟨e, by rw [hn, he]; rfl⟩
  | devUrl =>
    have hn : c.devUrl = .none := Option.not_isSome_iff_eq_none.1 (Bool.eq_false_iff.1 hopen)
    have hfails : (asText v).isOk = false := accepts_devUrl v ▸ hbad
    obtain ⟨e, he⟩ := fallBack_refused hv hfails
    exact bind_refused fun port => bind_refused fun path => ⟨e, by rw [hn, he]; rfl⟩
  | shutdownGrace => cases hv

/-- Arguments in any order give each chosen option its value, whatever else is said of it. The
environment is asked for the rest, and is at fault if it has no sound answer. -/
theorem arguments_win (env : Environment) (hgs : gs.Perm c.given)
    (has : List.Forall₂ Given.Spells gs as) :
    ((∀ s v, c.options.has s = false → given? env s = some v → s.accepts v = true) →
      ∃ o, Options.read env as = .ok o ∧
        o.dev = c.dev ∧ o.headless = c.headless ∧ o.verbose = c.verbose ∧
        Settled env .port port? c.port o.port ∧
        Settled env .backendPath path? (c.backendPath.map Utf8.encode) o.backendPath ∧
        Settled env .devUrl asText c.devUrl o.devUrl ∧
        o.shutdownGrace = c.shutdownGrace) ∧
    (∀ s v, c.options.has s = false → given? env s = some v → s.accepts v = false →
      ∃ e, Options.read env as = .error (.fault e)) ∧
    (∀ gs' as', gs'.Perm c.given → List.Forall₂ Given.Spells gs' as' →
      Options.read env as' = Options.read env as) := by
  have hread := c.read_chosen env hgs has
  refine ⟨fun hsound => ?_, fun s v hopen hv hbad => ?_, fun gs' as' hgs' has' => ?_⟩
  · obtain ⟨port, path, url, ho, hport, hpath, hurl⟩ := inheritAll_sound hsound
    rw [ho] at hread
    exact ⟨_, hread, rfl, rfl, rfl, hport, hpath, hurl, rfl⟩
  · obtain ⟨e, he⟩ := inheritAll_refused hopen hv hbad
    rw [he] at hread
    exact ⟨e, hread⟩
  · rw [hread, c.read_chosen env hgs' has']

def dashing : Choice where
  dev := false
  headless := false
  verbose := true
  port := some 65535
  backendPath := .none
  devUrl := some "-x=--dev"
  shutdownGrace := .none
  backendPath_ne := nofun

/-- A page that looks like a switch, a short name, and a variable that no port can have. -/
theorem dashing_arguments_win :
    let gs := [.switch .verbose, .devUrl "-x=--dev", .port 65535]
    let as := ["-v", "--dev-url=-x=--dev", "--port=65535"]
    let env : Environment := [("BRACKET_PORT", Utf8.encode "nowhere"),
      ("BRACKET_BACKEND_PATH", Utf8.encode "/opt/b")]
    gs.Perm dashing.given ∧ List.Forall₂ Given.Spells gs as ∧
      ∃ o, Options.read env as = .ok o ∧ o.dev = false ∧ o.headless = false ∧ o.verbose = true ∧
        o.port = some 65535 ∧ o.backendPath = some (Utf8.encode "/opt/b") ∧
        o.devUrl = some "-x=--dev" ∧ o.shutdownGrace = .none := by
  intro gs as env
  have hgs : gs.Perm dashing.given := by decide
  have has : List.Forall₂ Given.Spells gs as :=
    .cons .short (.cons (.long (.devUrl "-x=--dev")) (.cons (.long (.port 65535)) .nil))
  have hsound : ∀ s v, dashing.options.has s = false → given? env s = some v →
      s.accepts v = true := by
    intro s v hopen hv
    cases s with
    | port | devUrl => cases hopen
    | backendPath => cases hv; rfl
    | shutdownGrace => cases hv
  obtain ⟨o, ho, hdev, hheadless, hverbose, hport, hpath, hurl, hgrace⟩ :=
    (arguments_win env hgs has).1 hsound
  obtain ⟨path, hread, hpath⟩ := hpath
  cases hread
  exact ⟨hgs, has, o, ho, hdev, hheadless, hverbose, hport, hpath, hurl, hgrace⟩

end Options
end DesktopHost
