import DesktopHost.Launcher.Setup
import DesktopHost.Proofs.Decoding
import DesktopHost.Shell.Setup

/-!
One configuration for the launcher and the shell. Both lay the same variables over the same
defaults, but the launcher refuses what it cannot read and the shell passes over it; what the
launcher accepts, the shell reads alike. They part in two ways: the launcher ends with its window on
every system, where the shell keeps the system's own habit, and a shell reads its own name, which a
launcher passes over.
-/

set_option autoImplicit false

namespace DesktopHost

namespace Numeral

/-- A positive number within the bound is read with and without room for a minus sign. -/
theorem unsigned?_of_signed? {max : Nat} {cs : List Char} {n : Int} (h : signed? cs = some n)
    (hpos : 0 < n) (hmax : n ≤ max) : unsigned? max cs = some n.toNat := by
  unfold signed? at h
  split at h
  · obtain ⟨m, -, hm⟩ := Option.bind_eq_some_iff.1 h
    split at hm
    · cases hm; omega
    · cases hm
  · obtain ⟨m, hm, rfl⟩ := Option.map_eq_some_iff.1 h
    have hle : m ≤ max := by simpa using hmax
    unfold unsigned? at hm ⊢
    obtain ⟨k, hk, hbound⟩ := Option.bind_eq_some_iff.1 hm
    obtain rfl : k = m := by
      split at hbound
      · cases hbound; rfl
      · cases hbound
    rw [hk]
    simp [hle]

end Numeral

/-- A value that may be missing is read as itself, or as missing. -/
theorem mapM_eq_ok_iff {ε α β : Type} {parse : α → Except ε β} {given : Option α}
    {r : Option β} : given.mapM parse = .ok r ↔
      (given = none ∧ r = none) ∨ ∃ v b, given = some v ∧ parse v = .ok b ∧ r = some b := by
  cases given with
  | none => simp [pure, Except.pure, eq_comm]
  | some v =>
    have hmap : (some v).mapM parse = some <$> parse v := rfl
    rw [hmap]
    cases hp : parse v <;> simp [Functor.map, Except.map, hp, eq_comm]

namespace Options

variable {env : Environment} {o : Options}

/-- The value that a setting has in an environment. -/
def given? (env : Environment) (s : Setting) : Option Bytes := s.envName?.bind env.get?

/-- A setting that no argument gives is read by its own reader `parse`, if at all. -/
theorem inherit_eq {α : Type} {s : Setting} (parse : Bytes → Except ArgumentError α)
    (set : Option α → Options) (hunset : o.has s = false) (hkeep : set .none = o)
    (hassign : ∀ v, o.assign s v = (parse v).map fun a => set (some a)) :
    o.inherit env s = ((given? env s).mapM parse).map set := by
  unfold inherit
  rw [hunset, ← given?]
  cases given? env s with
  | none => exact congrArg Except.ok hkeep.symm
  | some v =>
    change o.assign s v = _
    rw [hassign]
    cases hv : parse v <;> simp [hv, Except.map, Functor.map]

/-- The grace period has no variable. -/
theorem inherit_shutdownGrace (h : o.shutdownGrace = .none) :
    o.inherit env .shutdownGrace = .ok o := by
  unfold inherit
  rw [has, h]
  rfl

/-- Options without a setting of their own take each from its variable. -/
theorem inheritAll_switches {dev headless verbose : Bool}
    (h : inheritAll env ⟨dev, .none, .none, .none, .none, headless, verbose⟩ = .ok o) :
    ∃ port path url, (given? env .port).mapM port? = .ok port ∧
      (given? env .backendPath).mapM path? = .ok path ∧
      (given? env .devUrl).mapM asText = .ok url ∧
      o = ⟨dev, port, path, url, .none, headless, verbose⟩ := by
  simp only [inheritAll, Setting.all, List.foldlM_cons, List.foldlM_nil, bind, Except.bind] at h
  rw [inherit_eq port? (fun p => ⟨dev, p, .none, .none, .none, headless, verbose⟩) rfl rfl
    fun _ => rfl] at h
  cases hport : (given? env .port).mapM port? with
  | error e => rw [hport] at h; cases h
  | ok port =>
    rw [hport] at h
    simp only [Except.map] at h
    rw [inherit_eq path? (fun p => ⟨dev, port, p, .none, .none, headless, verbose⟩) rfl rfl
      fun _ => rfl] at h
    cases hpath : (given? env .backendPath).mapM path? with
    | error e => rw [hpath] at h; cases h
    | ok path =>
      rw [hpath] at h
      simp only [Except.map] at h
      rw [inherit_eq asText (fun u => ⟨dev, port, path, u, .none, headless, verbose⟩) rfl rfl
        fun _ => rfl] at h
      cases hurl : (given? env .devUrl).mapM asText with
      | error e => rw [hurl] at h; cases h
      | ok url =>
        rw [hurl] at h
        simp only [Except.map] at h
        rw [inherit_shutdownGrace rfl] at h
        cases h
        exact ⟨port, path, url, rfl, rfl, rfl, rfl⟩

theorem read_switches {arguments : List String} (hargs : arguments = [] ∨ arguments = ["--dev"])
    (h : read env arguments = .ok o) :
    inheritAll env ⟨arguments.contains "--dev", .none, .none, .none, .none, false, false⟩ =
      .ok o := by
  have settled : ∀ base : Options,
      ArgumentReader.orFault (base.inheritAll env) = .ok o → base.inheritAll env = .ok o := by
    intro base hb
    cases hi : base.inheritAll env with
    | error e => rw [hi] at hb; cases hb
    | ok o' => rw [hi] at hb; cases hb; rfl
  rcases hargs with rfl | rfl
  · exact settled _ h
  · exact settled _ h

variable {platform : Platform}

theorem valid_of_config {c : Config} (h : o.config platform = .ok c) :
    c = o.overlay platform ∧ c.validate = .ok () := by
  unfold config at h
  split at h
  · rename_i hv
    cases h
    exact ⟨rfl, hv⟩
  · cases h

end Options

theorem Config.port_ne_zero {c : Config} (h : c.validate = .ok ()) : c.port ≠ 0 := by
  intro hp
  rw [Config.validate, hp] at h
  cases h

namespace Shell

open Options

variable {env : Environment}

theorem port?_of_accepted {port : Option UInt16} (h : (given? env .port).mapM Options.port? = .ok port)
    (hport : port ≠ some 0) : Shell.port? env = port := by
  have hvar : Shell.port? env = ((given? env .port).bind Utf8.decode?).bind fun text =>
      (Numeral.unsigned? 65535 text.toList).bind fun n => some (UInt16.ofNat n) := rfl
  rw [hvar]
  rcases mapM_eq_ok_iff.1 h with ⟨hv, rfl⟩ | ⟨v, p, hv, hp, rfl⟩
  · rw [hv]; rfl
  · rw [hv, Option.bind_some]
    unfold Options.port? asText at hp
    cases hd : Utf8.decode? v with
    | none => rw [hd] at hp; cases hp
    | some s =>
      rw [hd] at hp
      simp only [bind, Except.bind] at hp
      cases hn : Numeral.signed? s.toList with
      | none => rw [hn] at hp; cases hp
      | some n =>
        rw [hn] at hp
        simp only at hp
        split at hp
        · rename_i hrange
          cases hp
          have hpos : 0 < n := by
            rcases Int.lt_or_eq_of_le hrange.1 with hlt | rfl
            · exact hlt
            · exact absurd rfl hport
          have hread : Numeral.unsigned? 65535 s.toList = some n.toNat :=
            Numeral.unsigned?_of_signed? hn hpos hrange.2
          simp [hread]
        · cases hp

theorem devUrl_of_accepted {url : Option String} (h : (given? env .devUrl).mapM asText = .ok url) :
    env.text? devUrlVariable = url := by
  change (given? env .devUrl).bind Utf8.decode? = url
  rcases mapM_eq_ok_iff.1 h with ⟨hv, rfl⟩ | ⟨v, u, hv, hu, rfl⟩
  · rw [hv]; rfl
  · rw [hv, Option.bind_some]
    unfold asText at hu
    split at hu
    · cases hu; assumption
    · cases hu

theorem backendPath_of_accepted {path : Option Path}
    (h : (given? env .backendPath).mapM path? = .ok path) :
    env.get? backendPathVariable = path := by
  change given? env .backendPath = path
  rcases mapM_eq_ok_iff.1 h with ⟨hv, rfl⟩ | ⟨v, p, hv, hp, rfl⟩
  · exact hv
  · unfold path? at hp
    split at hp
    · cases hp
    · cases hp; exact hv

/-- Arguments that are text are read as such, all of them or as far as the flag. -/
theorem devFlag?_encode (arguments : List String) :
    devFlag? (arguments.map Utf8.encode) = some (arguments.contains devFlag) := by
  induction arguments with
  | nil => rfl
  | cons text rest ih =>
    rw [List.map_cons, devFlag?, Utf8.decode?_encode, List.contains_cons]
    by_cases h : text = devFlag
    · simp [h]
    · have hne : (devFlag == text) = false := beq_eq_false_iff_ne.2 (Ne.symm h)
      simp [h, hne, ih]

/-- A shell that is started with text for arguments has the configuration of that text. -/
theorem config?_encode (arguments : List String) (platform : Platform) :
    Shell.config? (arguments.map Utf8.encode) env platform =
      some (Shell.config arguments env platform) := by
  rw [Shell.config?, devFlag?_encode]
  rfl

/-- The name in front is read like an argument, and is none if it is not the flag. -/
theorem config?_cons {name : Bytes} {text : String} (htext : Utf8.decode? name = some text)
    (hname : text ≠ devFlag) (arguments : List Bytes) (platform : Platform) :
    Shell.config? (name :: arguments) env platform = Shell.config? arguments env platform := by
  rw [Shell.config?, Shell.config?, devFlag?, htext]
  simp [hname]

/-- A launched session ends with its window, and in all else is configured as a shell. -/
theorem config_eq_overlay {arguments : List String} {platform : Platform} {o : Options} {c : Config}
    (hargs : arguments = [] ∨ arguments = [devFlag])
    (hread : Options.read env arguments = .ok o) (hconfig : o.config platform = .ok c) :
    c.quitOnLastWindowClosed = true ∧ Shell.config arguments env platform =
      { c with quitOnLastWindowClosed := platform.quitsWithWindow } := by
  obtain ⟨rfl, hvalid⟩ := valid_of_config hconfig
  obtain ⟨port, path, url, hport, hpath, hurl, rfl⟩ :=
    inheritAll_switches (read_switches hargs hread)
  have hzero : port ≠ some 0 := by
    rintro rfl
    exact Config.port_ne_zero hvalid rfl
  refine ⟨rfl, ?_⟩
  rw [Shell.config, overlay, port?_of_accepted hport hzero, devUrl_of_accepted hurl,
    backendPath_of_accepted hpath]
  rfl

/-- What the launcher makes of no argument or the one flag, a shell whose name is text makes of them
as well, except that on macOS it does not end with its window. -/
theorem config_eq_of_launcher {platform : Platform} {name : Bytes} {text : String}
    {arguments : List String} {o : Options} {c : Config} (htext : Utf8.decode? name = some text)
    (hname : text ≠ devFlag) (hargs : arguments = [] ∨ arguments = [devFlag])
    (hread : Options.read env arguments = .ok o) (hconfig : o.config platform = .ok c) :
    c.quitOnLastWindowClosed = true ∧
      Shell.config? (name :: arguments.map Utf8.encode) env platform =
        some (if platform = .macOS then { c with quitOnLastWindowClosed := false } else c) := by
  obtain ⟨hquits, hshell⟩ := config_eq_overlay hargs hread hconfig
  refine ⟨hquits, ?_⟩
  rw [config?_cons htext hname, config?_encode, hshell]
  cases platform with
  | macOS => rfl
  | linux | windows | other =>
    rw [if_neg (by decide), Platform.quitsWithWindow, ← hquits]

/-- Both leave room for a plus sign and zeros before a port. -/
theorem signed_port_agrees : ∃ o c,
    Options.read [("BRACKET_PORT", Utf8.encode "+09000")] [] = .ok o ∧
      o.config .linux = .ok c ∧ o.config .macOS = .ok c ∧ c.port = 9000 ∧
      Shell.config? [Utf8.encode "desktop"] [("BRACKET_PORT", Utf8.encode "+09000")] .linux =
        some c ∧
      Shell.config? [Utf8.encode "desktop"] [("BRACKET_PORT", Utf8.encode "+09000")] .macOS =
        some { c with quitOnLastWindowClosed := false } := by
  have hread : Options.read [("BRACKET_PORT", Utf8.encode "+09000")] [] =
      .ok { Options.none with port := some 9000 } := by rfl
  have hlinux : Options.config { Options.none with port := some 9000 } .linux =
      .ok { Config.forMode .production with port := 9000 } := by rfl
  have hmac : Options.config { Options.none with port := some 9000 } .macOS =
      .ok { Config.forMode .production with port := 9000 } := by rfl
  have htext := Utf8.decode?_encode "desktop"
  exact ⟨_, _, hread, hlinux, hmac, rfl,
    (config_eq_of_launcher htext (by decide) (.inl rfl) hread hlinux).2,
    (config_eq_of_launcher htext (by decide) (.inl rfl) hread hmac).2⟩

/-- On macOS the two differ in what the last window means, and nowhere does a shell start under a
name that is no text, as a launcher does. -/
theorem shells_part :
    (∃ o c c', Options.read [] [] = .ok o ∧ o.config .macOS = .ok c ∧
      Shell.config? [Utf8.encode "desktop"] [] .macOS = some c' ∧ c' ≠ c) ∧
    ∃ o c, Options.read [] [] = .ok o ∧ o.config .linux = .ok c ∧
      Shell.config? [[0xFF]] [] .linux = .none := by
  have hread : Options.read [] [] = .ok Options.none := by rfl
  have hmac : Options.none.config .macOS = .ok (Options.none.overlay .macOS) := by rfl
  have hlinux : Options.none.config .linux = .ok (Options.none.overlay .linux) := by rfl
  have hname : Shell.config? [Utf8.encode "desktop"] [] .macOS =
      some (Shell.overlay false [] .macOS) := by rfl
  exact ⟨⟨_, _, _, hread, hmac, hname, by decide⟩, _, _, hread, hlinux, by rfl⟩

end Shell
end DesktopHost
