import DesktopHost.Proofs.Lacking
import DesktopHost.Proofs.Restart

/-!
A command that is ignored during startup makes no difference. A run beside the same run without
such commands: the first takes one more step for each of them, and apart from that they do the same
at the same times.
-/

set_option autoImplicit false

namespace DesktopHost

/-- What the record says of the world around a session, whatever the session does. -/
def Event.isAmbient : Event → Bool
  | .command .. | .exit .. | .line .. | .note (.startupReported _) => true
  | _ => false

namespace World

variable (w : World)

theorem trace_occur (o : Occurrence) :
    ∃ new, (w.occur o).trace = new ++ w.trace ∧ ∀ e ∈ new, e.2.isAmbient = true := by
  have hnone : ∃ new, w.trace = new ++ w.trace ∧ ∀ e ∈ new, e.2.isAmbient = true :=
    ⟨[], rfl, List.forall_mem_nil _⟩
  have hone (e : Event) (he : e.isAmbient = true) :
      ∃ new, (w.now, e) :: w.trace = new ++ w.trace ∧ ∀ e ∈ new, e.2.isAmbient = true :=
    ⟨[(w.now, e)], rfl, List.forall_mem_singleton.2 he⟩
  cases o with
  | command c =>
    simp only [occur, sendCommand]
    split
    · split
      · exact hone (.command c (some true)) rfl
      · exact hone (.command c (some false)) rfl
    · exact hone (.command c none) rfl
  | exit i code => exact hone (.exit i code _) rfl
  | line i stream text =>
    simp only [occur, readLine]
    split
    · exact hnone
    · next c _ =>
      have hline := hone (.line c.pid stream text) rfl
      cases stream with
      | stderr => exact hline
      | stdout =>
        dsimp only
        split
        · exact ⟨[(w.now, .note (.startupReported c.pid)), (w.now, .line c.pid .stdout text)], rfl,
            List.forall_mem_cons.2 ⟨rfl, List.forall_mem_singleton.2 rfl⟩⟩
        · exact hline
  | _ => exact hnone

/-- Whatever happens around it meanwhile, a session finds its own record as it left it. -/
theorem trace_advanceTo (t : Nat) :
    ∃ new, (w.advanceTo t).trace = new ++ w.trace ∧ ∀ e ∈ new, e.2.isAmbient = true := by
  have hfold (ds : List Due) (w : World) :
      ∃ new, (ds.foldl meet w).trace = new ++ w.trace ∧ ∀ e ∈ new, e.2.isAmbient = true := by
    induction ds generalizing w with
    | nil => exact ⟨[], rfl, List.forall_mem_nil _⟩
    | cons d rest ih =>
      obtain ⟨early, he, hall⟩ := (w.withClock (max w.now d.time)).trace_occur d.what
      obtain ⟨late, hl, hall'⟩ := ih (w.meet d)
      refine ⟨late ++ early, ?_, fun e hmem => ?_⟩
      · rw [List.foldl_cons, hl, List.append_assoc]
        exact congrArg (late ++ ·) he
      · exact (List.mem_append.1 hmem).elim (hall' e) (hall e)
  exact hfold _ (w.withAgenda (Due.beyond t w.agenda))

variable {w} {v : World}

/-- What is overdue already is but lines. -/
theorem Prompt.lt_time (h : w.Prompt) (sorted : Due.Sorted w.agenda) {d : Due} (hd : d ∈ w.agenda)
    (hl : d.isLine = false) : w.now < d.time := by
  by_contra hle
  rw [h d (sorted.mem_upTo hd (Nat.not_lt.1 hle))] at hl
  cases hl

theorem of_receive_nothing (h : w.receive = (v, .nothing)) :
    w.queue = [] ∧ w.handleHeld = true := by
  unfold receive at h
  split at h
  · cases h
  · next hq =>
    split at h
    · next hh => exact ⟨hq, hh⟩
    · cases h

theorem of_receive_command {c : Command} (h : w.receive = (v, .command c)) :
    ∃ rest, w.queue = c :: rest ∧ v = { w with queue := rest } := by
  unfold receive at h
  split at h
  · next c' rest hq =>
    cases h
    exact ⟨rest, hq, rfl⟩
  · split at h <;> cases h

end World

namespace Session

variable {s s' : Session} {race race' : Option Race}

/-- The session takes the next command, and does nothing else but make a note of it. -/
def ignore (s : Session) (c : Command) (rest : List Command) : Session :=
  (s.inWorld { s.world with queue := rest }).note (.commandIgnored c)

theorem react_ignore (hp : s.phase = .probing race) (he : s.backendExit? = none) {c : Command}
    {rest : List Command} (hq : s.world.queue = c :: rest) (hc : c ≠ .quit) :
    s.react = some (s.ignore c rest) := by
  have hw : s.world.receive = ({ s.world with queue := rest }, .command c) := by
    rw [World.receive, hq]
  rw [react_probing hp he hw]
  cases c with
  | quit => exact absurd rfl hc
  | _ => rfl

/-- One step of a startup that goes on. -/
inductive StartsOn (s s' : Session) : Prop
  | ignores (c : Command) (rest : List Command) (queue : s.world.queue = c :: rest)
      (idle : c ≠ .quit) (unseen : s.backendExit? = none) (react : s.react = some s')
      (eq : s' = s.ignore c rest)
  | looks (w : World) (race : Option Race) (queue : s.world.queue = [])
      (held : s.world.handleHeld = true) (watched : s.world.Watched w)
      (record : ∃ t e, w.trace = (t, e) :: s.world.trace ∧ ∀ c, e ≠ .note (.commandIgnored c))
      (eq : s' = (s.inWorld w).inPhase (.probing race))
  | waits (t : Nat) (queue : s.world.queue = []) (held : s.world.handleHeld = true)
      (eq : s' = s.inWorld (s.world.advanceTo t))

theorem startsOn_probeReadiness (hq : s.world.queue = []) (hh : s.world.handleHeld = true)
    (hs : s.probeReadiness race = some s') (hp' : s'.phase = .probing race') : StartsOn s s' := by
  have hcheck : ∃ t e, s.world.startCheck.1.trace = (t, e) :: s.world.trace ∧
      ∀ c, e ≠ .note (.commandIgnored c) := by
    refine ⟨s.world.now, .healthCall (s.world.checks + 1), ?_, nofun⟩
    unfold World.startCheck
    dsimp only
    split <;> rfl
  unfold probeReadiness at hs
  split at hs
  · obtain ⟨b, -, rfl⟩ := Option.map_eq_some_iff.1 hs
    exact .looks _ _ hq hh s.world.watched_startCheck hcheck rfl
  · next race =>
    split at hs
    · cases hs
    · next w race' hr =>
      cases hs
      refine .looks w _ hq hh (Race.watched_of_moved hr) ?_ rfl
      obtain ⟨-, poll, hpoll, -⟩ := Race.step_eq_moved hr
      rcases Poll.step_eq_moved hpoll with ⟨_, _, e, -, -, -, rfl, -⟩ | ⟨_, -, -, heq⟩
      · exact ⟨_, _, rfl, nofun⟩
      · rw [show w = s.world.startCheck.1 from congrArg Prod.fst heq]
        exact hcheck
    · cases hs
      cases hp'

theorem startsOn_step (hp : s.phase = .probing race) (hp' : s'.phase = .probing race')
    (hs : s.step = some s') : StartsOn s s' := by
  have hreact : s.react = some s' ∨ s.react = none ∧ s.wait = some s' := by
    unfold step at hs
    split at hs
    · next hr => exact .inl (hr.trans hs)
    · next hr => exact .inr ⟨hr, hs⟩
  cases he : s.backendExit? with
  | some r =>
    have hr : s.react = some ((s.backendExited r).inPhase .hosting) := by
      unfold react probe
      rw [hp]
      dsimp only
      rw [he]
    rw [hr] at hreact
    rcases hreact with h | ⟨h, -⟩
    · cases h
      cases hp'
    · cases h
  | none =>
    cases hw : s.world.receive with
    | mk w received =>
      have hr := react_probing hp he hw
      cases received with
      | closed =>
        rw [hr] at hreact
        rcases hreact with h | ⟨h, -⟩ <;> cases h
        cases hp'
      | nothing =>
        obtain ⟨hq, hh⟩ := World.of_receive_nothing hw
        rcases hreact with h | ⟨-, h⟩
        · exact startsOn_probeReadiness hq hh (hr.symm.trans h) hp'
        · unfold wait at h
          rw [hp] at h
          obtain ⟨t, -, rfl⟩ := Option.map_eq_some_iff.1 h
          exact .waits t hq hh rfl
      | command c =>
        obtain ⟨rest, hq, rfl⟩ := World.of_receive_command hw
        by_cases hc : c = .quit
        · subst hc
          rw [hr] at hreact
          rcases hreact with h | ⟨h, -⟩ <;> cases h
          cases hp'
        · have h := react_ignore hp he hq hc
          rcases hreact with hs' | ⟨hs', -⟩
          · exact .ignores c rest hq hc he hs' (Option.some.inj (hs'.symm.trans h))
          · rw [h] at hs'
            cases hs'

/-- While a command is there to be ignored, nothing else goes on. -/
theorem StartsOn.ignores_of_queue (h : StartsOn s s') {c : Command} {rest : List Command}
    (hq : s.world.queue = c :: rest) :
    c ≠ .quit ∧ s.backendExit? = none ∧ s.react = some s' ∧ s' = s.ignore c rest := by
  cases h with
  | ignores c' rest' queue idle unseen react eq =>
    cases hq.symm.trans queue
    exact ⟨idle, unseen, react, eq⟩
  | looks _ _ queue => cases hq.symm.trans queue
  | waits _ queue => cases hq.symm.trans queue

theorem StartsOn.listening (h : StartsOn s s') : s'.world.listening = s.world.listening := by
  cases h with
  | ignores c rest _ _ _ _ eq => rw [eq]; rfl
  | looks w race _ _ watched _ eq => rw [eq]; exact watched.listening
  | waits t _ _ eq => rw [eq]; exact s.world.listening_advanceTo t

/-- A startup does not wait while nobody is left to send a command. -/
theorem StartsOn.now_of_deserted (h : StartsOn s s') (hh : s.world.handleHeld = false) :
    s'.world.now = s.world.now ∧ s'.world.handleHeld = false := by
  cases h with
  | ignores c rest _ _ _ _ eq => rw [eq]; exact ⟨rfl, hh⟩
  | looks _ _ _ held => rw [held] at hh; cases hh
  | waits _ _ held => rw [held] at hh; cases hh

/-- A startup never comes to a standstill. -/
theorem exists_step (hp : s.phase = .probing race) (h : s.StartingUp) :
    ∃ s', s.step = some s' := by
  unfold step
  cases hr : s.react with
  | some s' => exact ⟨s', rfl⟩
  | none =>
    obtain ⟨b, hb⟩ := Option.isSome_iff_exists.1 h.held
    obtain ⟨r, rfl⟩ : ∃ r, race = some r := by
      cases race with
      | some r => exact ⟨r, rfl⟩
      | none =>
        unfold react probe at hr
        rw [hp] at hr
        dsimp only at hr
        split at hr
        · cases hr
        · split at hr
          · cases hr
          · cases hr
          · cases hr
          · rw [probeReadiness, hb] at hr
            cases hr
    have ht : s.timer? = some (r.due s.config.readiness) := by
      unfold timer?
      rw [hp]
    dsimp only
    unfold wait wake?
    rw [hp, ht]
    cases s.world.nextDue? <;> exact ⟨_, rfl⟩

/-- Who has less to wait for wakes no earlier. -/
theorem InStep.wake_before {markers : List String} {heard : Nat → Prop} {due queued : List Sent}
    {extra : List (Nat × Event)} {r : Session} {t : Nat}
    (h : InStep .none markers heard (World.Lacks due queued extra) s r) (ht : r.wake? = some t) :
    ∃ u, s.wake? = some u ∧ u ≤ t := by
  have htimer : s.timer? = r.timer? := h.timer?.trans Option.map_id'
  unfold wake? at ht ⊢
  rw [htimer]
  cases hn : r.world.nextDue? with
  | none =>
    rw [hn] at ht
    cases hr : r.timer? with
    | none => rw [hr] at ht; cases ht
    | some a =>
      rw [hr] at ht
      cases ht
      cases s.world.nextDue? with
      | none => exact ⟨t, rfl, Nat.le_refl t⟩
      | some b => exact ⟨_, rfl, Nat.min_le_left _ _⟩
  | some b =>
    obtain ⟨c, hc, hle⟩ := h.world.nextDue? hn
    rw [hn] at ht
    rw [hc]
    cases hr : r.timer? with
    | none => rw [hr] at ht; cases ht; exact ⟨c, rfl, hle⟩
    | some a =>
      rw [hr] at ht
      cases ht
      exact ⟨_, rfl, by omega⟩

/-- What is due at all is due at the next look or later. -/
theorem wake_le {t : Nat} (ht : s.wake? = some t) (sorted : Due.Sorted s.world.agenda) {d : Due}
    (hd : d ∈ s.world.agenda) : t ≤ d.time := by
  cases ha : s.world.agenda with
  | nil => rw [ha] at hd; cases hd
  | cons e rest =>
    rw [ha] at hd sorted
    have he : e.time ≤ d.time := by
      rcases List.mem_cons.1 hd with rfl | hd
      · exact Nat.le_refl _
      · exact (List.pairwise_cons.1 sorted).1 d hd
    have hnext : s.world.nextDue? = some e.time := by rw [World.nextDue?, ha]; rfl
    unfold wake? at ht
    rw [hnext] at ht
    cases htimer : s.timer? with
    | none => rw [htimer] at ht; cases ht; exact he
    | some u => rw [htimer] at ht; cases ht; exact Nat.le_trans (Nat.min_le_right _ _) he

end Session

namespace Opening

open Session

variable (o : Opening) {k m j : Nat}

/-- In step `k` a child is spawned, at a session that receives commands; in step `j` its startup
still goes on. -/
structure StartsUp (k j : Nat) : Prop where
  before : k < j
  spawned : ∃ i l, .spawn i l ∈ o.news k
  listens : (o.state (k + 1)).world.listening = true
  goesOn : ∀ m, k < m → m ≤ j → ∃ race, (o.state m).phase = .probing race

/-- What arrives at `t` arrives after a child is spawned, and before its startup is decided. -/
def ArrivesDuringStartup (t : Nat) : Prop :=
  ∃ k j, o.StartsUp k j ∧ (o.state k).world.now < t ∧ t < (o.state j).world.now

/-- The same beginning with another agenda. -/
def onAgenda (agenda : List Due) : Opening :=
  o.inWorld (o.world.withAgenda agenda) o.childless o.blank

variable {o}

theorem not_over_of_probing {race : Option Race} (hp : (o.state k).phase = .probing race) :
    ¬(o.state k).IsOver := by
  rintro ⟨t, ht⟩
  rw [hp] at ht
  cases ht

theorem not_over_of_succ (h : ¬(o.state (k + 1)).IsOver) : ¬(o.state k).IsOver := by
  rintro ⟨t, ht⟩
  exact h ⟨t, by rw [state_of_finished ht (Nat.le_succ k), ht]⟩

theorem now_le (hkm : k ≤ m) (hm : ¬(o.state m).IsOver) :
    (o.state k).world.now ≤ (o.state m).world.now := by
  induction m, hkm using Nat.le_induction with
  | base => exact Nat.le_refl _
  | succ m _ ih =>
    refine Nat.le_trans (ih (not_over_of_succ hm)) ?_
    cases o.move m with
    | quits s₁ _ _ eq => exact absurd ⟨_, by rw [eq]; rfl⟩ hm
    | waits t _ _ _ eq =>
      have hnow : ((o.state m).world.advanceTo t).now = max (o.state m).world.now t :=
        World.advanceTo_now _ t
      rw [eq]
      exact hnow ▸ Nat.le_max_left _ _
    | opens b s₁ _ gate eq =>
      rw [eq]
      exact Nat.le_of_eq (gate.atOnce.trans s₁.atOnce_openWindow).now.symm
    | other _ _ atOnce => exact Nat.le_of_eq atOnce.now.symm

theorem lt_of_now_lt (hk : ¬(o.state k).IsOver)
    (h : (o.state k).world.now < (o.state m).world.now) : k < m :=
  Nat.lt_of_not_le fun hle => Nat.not_lt.2 (now_le hle hk) h

theorem startsOn {race race' : Option Race} (hp : (o.state k).phase = .probing race)
    (hp' : (o.state (k + 1)).phase = .probing race') :
    StartsOn (o.state k) (o.state (k + 1)) := by
  obtain ⟨s', hs⟩ := exists_step hp ((Sound.probing hp).1 (o.sound k))
  have heq := o.state_succ_of_step hs
  rw [heq] at hp' ⊢
  exact startsOn_step hp hp' hs

theorem state_succ_of_wake {t : Nat} (hs : (o.state k).react = none) (hover : ¬(o.state k).IsOver)
    (ht : (o.state k).wake? = some t) :
    o.state (k + 1) = (o.state k).inWorld ((o.state k).world.advanceTo t) := by
  refine o.state_succ_of_step ?_
  rw [step, hs]
  dsimp only
  rw [wait_of_unfinished fun u hu => hover ⟨u, hu⟩, ht]
  rfl

namespace StartsUp

variable (h : o.StartsUp k j)
include h

theorem not_over : ¬(o.state k).IsOver :=
  have ⟨_, hp⟩ := h.goesOn (k + 1) (Nat.lt_succ_self k) h.before
  not_over_of_succ (not_over_of_probing hp)

theorem startsOn (hm : k < m) (hj : m < j) : StartsOn (o.state m) (o.state (m + 1)) := by
  obtain ⟨race, hp⟩ := h.goesOn m hm (Nat.le_of_lt hj)
  obtain ⟨race', hp'⟩ := h.goesOn (m + 1) (Nat.lt_succ_of_lt hm) hj
  exact Opening.startsOn hp hp'

theorem listening (hm : k < m) (hj : m ≤ j) : (o.state m).world.listening = true := by
  induction m, hm using Nat.le_induction with
  | base => exact h.listens
  | succ m hm ih => rw [(h.startsOn hm hj).listening, ih (Nat.le_of_succ_le hj)]

/-- Time passes in a startup only as long as someone can still send a command. -/
theorem handleHeld (hm : k < m) (hj : m ≤ j) (hnow : (o.state m).world.now < (o.state j).world.now) :
    (o.state m).world.handleHeld = true := by
  by_contra hheld
  have hstands : ∀ n, m ≤ n → n ≤ j → (o.state n).world.now = (o.state m).world.now ∧
      (o.state n).world.handleHeld = false := by
    intro n hn hnj
    induction n, hn using Nat.le_induction with
    | base => exact ⟨rfl, Bool.eq_false_iff.2 hheld⟩
    | succ n hn ih =>
      obtain ⟨ht, hh⟩ := ih (Nat.le_of_succ_le hnj)
      obtain ⟨ht', hh'⟩ := (h.startsOn (Nat.lt_of_lt_of_le hm hn) hnj).now_of_deserted hh
      exact ⟨ht'.trans ht, hh'⟩
  rw [(hstands j hj (Nat.le_refl j)).1] at hnow
  exact Nat.lt_irrefl _ hnow

end StartsUp

/-- After `k` steps a command is still to come, and will arrive during a startup. -/
structure Expects (o : Opening) (k : Nat) (s : Sent) : Prop where
  later : (o.state k).world.now < s.time
  startup : ∃ i j, o.StartsUp i j ∧ k < j ∧ (o.state i).world.now < s.time ∧
    s.time < (o.state j).world.now

/-- After `k` steps of the run, `r` is the same session in a world without some of the commands.
Those that are `due` arrive during startups to come, and those in the queue during this one. -/
structure Spared (o : Opening) (removed : List Sent) (k : Nat) (due queued : List Sent)
    (extra : List (Nat × Event)) (r : Session) : Prop where
  inStep : InStep .none o.config.readiness.markers (fun _ => True)
    (World.Lacks due queued extra) (o.state k) r
  expected : ∀ s ∈ due, o.Expects k s
  waiting : ∀ s ∈ queued, s.time = (o.state k).world.now
  underway : queued ≠ [] → ∃ i j, o.StartsUp i j ∧ i < k ∧ k < j ∧
    (o.state k).world.now < (o.state j).world.now
  account : (extra ++ queued.map Sent.ignoring ++ due.flatMap Sent.record).Perm
    (removed.flatMap Sent.record)

/-- What is expected is expected until it comes. -/
theorem Expects.later_on {s : Sent} (h : o.Expects k s) (hk : ¬(o.state m).IsOver)
    (hm : (o.state m).world.now < s.time) : o.Expects m s := by
  obtain ⟨i, j, hup, -, hi, hj⟩ := h.startup
  exact ⟨hm, i, j, hup, lt_of_now_lt hk (Nat.lt_trans hm hj), hi, hj⟩

/-- Nothing is expected of a run whose last step has been made. -/
theorem Expects.not_stuck {s : Sent} (h : o.Expects k s) : (o.state k).step ≠ none := by
  intro hstuck
  obtain ⟨i, j, hup, hkj, -, hj⟩ := h.startup
  rw [state_of_stuck hstuck (Nat.le_of_lt hkj)] at hj
  exact Nat.lt_asymm hj h.later

/-- Nor of one that is over with the next step. -/
theorem Expects.not_over_next {s : Sent} (h : o.Expects k s) : ¬(o.state (k + 1)).IsOver := by
  rintro ⟨t, ht⟩
  obtain ⟨i, j, hup, hkj, hi, hj⟩ := h.startup
  obtain ⟨race, hp⟩ := hup.goesOn j hup.before (Nat.le_refl j)
  rw [state_of_finished ht hkj, ht] at hp
  cases hp

namespace Spared

variable {removed due queued : List Sent} {extra : List (Nat × Event)} {r s' : Session}

/-- A step of both sessions of their own accord. -/
theorem reacts (h : Spared o removed k due [] extra r) :
    Option.Rel (fun s' r' => s' = o.state (k + 1) ∧ Spared o removed (k + 1) due [] extra r')
      (o.state k).react r.react := by
  have hnext {s' : Session} (hs : (o.state k).react = some s') : s' = o.state (k + 1) :=
    (o.state_succ_of_step (by rw [step, hs])).symm
  have hrel := h.inStep.react (World.Lacks.mirrors due extra _) fun s' hs hover => by
    obtain rfl : due = [] := List.eq_nil_iff_forall_not_mem.2 fun s hmem =>
      (h.expected s hmem).not_over_next (hnext hs ▸ hover)
    exact World.Lacks.stops extra
  generalize hx : (o.state k).react = x at hrel ⊢
  generalize r.react = y at hrel ⊢
  cases hrel with
  | none => exact .none
  | some h' =>
    obtain rfl := hnext hx
    refine .some ⟨rfl, h', fun s hmem => ?_, fun _ hmem => absurd hmem List.not_mem_nil,
      fun hne => absurd rfl hne, h.account⟩
    have hover := (h.expected s hmem).not_over_next
    refine (h.expected s hmem).later_on hover ?_
    exact (o.prompt (k + 1) fun t ht => hover ⟨t, ht⟩).lt_time h'.world.sorted
      (h'.world.agenda.subset (List.mem_map_of_mem hmem)) rfl

/-- What a step that takes no time leaves to be expected. -/
theorem expected_next (h : Spared o removed k due queued extra r)
    (hsame : (o.state (k + 1)).world.now = (o.state k).world.now) : ∀ s ∈ due, o.Expects (k + 1) s :=
  fun s hmem => (h.expected s hmem).later_on (h.expected s hmem).not_over_next
    (hsame ▸ (h.expected s hmem).later)

theorem underway_next (h : Spared o removed k due queued extra r) (hne : queued ≠ [])
    (hsame : (o.state (k + 1)).world.now = (o.state k).world.now) :
    ∃ i j, o.StartsUp i j ∧ i < k + 1 ∧ k + 1 < j ∧
      (o.state (k + 1)).world.now < (o.state j).world.now := by
  obtain ⟨i, j, hup, hik, hkj, hnow⟩ := h.underway hne
  refine ⟨i, j, hup, Nat.lt_succ_of_lt hik, Nat.lt_of_le_of_ne hkj fun heq => ?_, hsame ▸ hnow⟩
  rw [← heq, hsame] at hnow
  exact Nat.lt_irrefl _ hnow

/-- The first in the queue is one of those that are left out: the one session ignores it. -/
theorem ignores_left_out {q : Sent} (h : Spared o removed k due (q :: queued) extra r)
    {all : List Command} (hin : Interspersed (queued.map Sent.command) r.world.queue all)
    (heq : o.state (k + 1) = (o.state k).ignore q.command all) :
    Spared o removed (k + 1) due queued (q.ignoring :: extra) r := by
  have hsame : (o.state (k + 1)).world.now = (o.state k).world.now := by rw [heq]; rfl
  have hq : q.ignoring = ((o.state k).world.now, .note (.commandIgnored q.command)) := by
    rw [Sent.ignoring, h.waiting q List.mem_cons_self]
  have hworld : World.Lacks due queued (q.ignoring :: extra)
      ((o.state k).ignore q.command all).world r.world :=
    { h.inStep.world with
      queue := hin
      record := by
        rw [hq]
        exact h.inStep.world.record.extra _ }
  refine ⟨?_, h.expected_next hsame, fun s hmem => ?_,
    fun _ => h.underway_next (List.cons_ne_nil _ _) hsame, ?_⟩
  · rw [heq]
    exact { h.inStep with world := hworld }
  · rw [hsame]
    exact h.waiting s (List.mem_cons_of_mem q hmem)
  · refine .trans ?_ h.account
    refine .append_right _ ?_
    rw [List.map_cons, List.cons_append]
    exact List.perm_middle.symm

/-- The first in the queue is there for both sessions: both ignore it. -/
theorem ignores_both {q : Sent} (h : Spared o removed k due (q :: queued) extra r) {c : Command}
    {all rest : List Command} (hin : Interspersed ((q :: queued).map Sent.command) rest all)
    (heq : o.state (k + 1) = (o.state k).ignore c all) :
    Spared o removed (k + 1) due (q :: queued) extra (r.ignore c rest) := by
  have hsame : (o.state (k + 1)).world.now = (o.state k).world.now := by rw [heq]; rfl
  have htaken : World.Lacks due (q :: queued) extra { (o.state k).world with queue := all }
      { r.world with queue := rest } := { h.inStep.world with queue := hin }
  have hworld : World.Lacks due (q :: queued) extra ((o.state k).ignore c all).world
      (r.ignore c rest).world := htaken.note (.commandIgnored c)
  refine ⟨?_, h.expected_next hsame, fun s hmem => ?_,
    fun _ => h.underway_next (List.cons_ne_nil _ _) hsame, h.account⟩
  · rw [heq]
    exact { h.inStep with world := hworld }
  · rw [hsame]
    exact h.waiting s hmem

/-- While commands that are left out wait in the queue, the one session takes them one by one, and
the other what stands between them. -/
theorem ignores {q : Sent} (h : Spared o removed k due (q :: queued) extra r) :
    (o.state k).react = some (o.state (k + 1)) ∧
      (Spared o removed (k + 1) due queued (q.ignoring :: extra) r ∨
        ∃ r', r.react = some r' ∧ Spared o removed (k + 1) due (q :: queued) extra r') := by
  obtain ⟨i, j, hup, hik, hkj, -⟩ := h.underway (List.cons_ne_nil _ _)
  have hstep {c : Command} {all : List Command} (hall : (o.state k).world.queue = c :: all) :=
    (hup.startsOn hik hkj).ignores_of_queue hall
  have hqueue := h.inStep.world.queue
  generalize hextra : (q :: queued).map Sent.command = more at hqueue
  generalize hall : (o.state k).world.queue = all at hqueue
  generalize hrest : r.world.queue = rest at hqueue
  cases hqueue with
  | nil => cases hextra
  | @extra c more rest all hin =>
    cases hextra
    obtain ⟨-, -, hreact, heq⟩ := hstep hall
    exact ⟨hreact, .inl (h.ignores_left_out (hrest ▸ hin) heq)⟩
  | @kept c more rest all hin =>
    obtain ⟨hc, he, hreact, heq⟩ := hstep hall
    obtain ⟨race, hp⟩ := hup.goesOn k hik (Nat.le_of_lt hkj)
    have hp' : r.phase = .probing race := by
      rw [← hp, h.inStep.phase, r.phase.after_none]
    have he' : r.backendExit? = none := by
      rw [← he]
      unfold backendExit?
      rw [h.inStep.backend]
      cases r.backend with
      | none => rfl
      | some b => exact (h.inStep.world.visibleExit b.child).symm
    exact ⟨hreact, .inr ⟨_, react_ignore hp' he' hrest hc, h.ignores_both (hextra ▸ hin) heq⟩⟩

/-- Both wait until something is due for the one, and some of what is left out may arrive then. -/
theorem waits {t : Nat} (h : Spared o removed k due [] extra r) (hs : (o.state k).react = none)
    (hover : ¬(o.state k).IsOver) (ht : (o.state k).wake? = some t) :
    (o.state k).inWorld ((o.state k).world.advanceTo t) = o.state (k + 1) ∧
      ∃ due queued extra, Spared o removed (k + 1) due queued extra
        (r.inWorld (r.world.advanceTo t)) := by
  have hnext := state_succ_of_wake hs hover ht
  have hover' : ¬(o.state (k + 1)).IsOver := by rw [hnext]; exact hover
  obtain ⟨early, late, rfl, hearly, hlate⟩ := Sent.exists_split
    (h.inStep.world.sorted.sublist h.inStep.world.agenda.extra_sublist) t
  have hnow : (o.state (k + 1)).world.now = max (o.state k).world.now t := by
    rw [hnext]
    exact World.advanceTo_now _ t
  have hexpected (s : Sent) (hs : s ∈ early) : o.Expects k s :=
    h.expected s (List.mem_append_left late hs)
  have htime : ∀ s ∈ early, s.time = (o.state (k + 1)).world.now := fun s hs => by
    have hdue : s.due ∈ (o.state k).world.agenda :=
      h.inStep.world.agenda.subset (List.mem_map_of_mem (List.mem_append_left late hs))
    have hge : t ≤ s.time := wake_le ht h.inStep.world.sorted hdue
    have hlater := (hexpected s hs).later
    have hle := hearly s hs
    omega
  have hup (hne : early ≠ []) : ∃ i j, o.StartsUp i j ∧ i < k + 1 ∧ k + 1 < j ∧
      (o.state (k + 1)).world.now < (o.state j).world.now := by
    obtain ⟨s, hs⟩ := List.exists_mem_of_ne_nil early hne
    obtain ⟨i, j, hup, -, hi, hj⟩ := (hexpected s hs).startup
    rw [htime s hs] at hi hj
    exact ⟨i, j, hup, lt_of_now_lt hup.not_over hi, lt_of_now_lt hover' hj, hj⟩
  have hears (hne : early ≠ []) :
      ((o.state k).world.advanceTo t).handleHeld = true ∧ (o.state k).world.listening = true := by
    obtain ⟨i, j, hup, hi, hj, hlt⟩ := hup hne
    have hheld := hup.handleHeld hi (Nat.le_of_lt hj) hlt
    have hlistens := hup.listening hi (Nat.le_of_lt hj)
    rw [hnext] at hheld hlistens
    exact ⟨hheld, ((o.state k).world.listening_advanceTo t).symm.trans hlistens⟩
  have hworld : World.Lacks late early ((early.map Sent.arrival).reverse ++ extra)
      ((o.state k).world.advanceTo t) (r.world.advanceTo t) :=
    h.inStep.world.advanceTo (fun s hs => ⟨Nat.le_of_lt (hexpected s hs).later, hearly s hs⟩)
      hlate hears
  refine ⟨hnext.symm, late, early, (early.map Sent.arrival).reverse ++ extra, ?_, fun s hs => ?_,
    htime, hup, ?_⟩
  · rw [hnext]
    exact { h.inStep with world := hworld }
  · have hexpects := h.expected s (List.mem_append_right early hs)
    refine hexpects.later_on hover' ?_
    rw [hnow]
    exact Nat.max_lt.2 ⟨hexpects.later, hlate s hs⟩
  · have hall := h.account
    rw [List.flatMap_append, List.map_nil, List.append_nil, ← List.append_assoc] at hall
    exact .trans (.append_right _ (Sent.arrived_perm early extra)) hall

end Spared

/-- A run, and the same run without some of the commands, as they go on. -/
theorem tracks_spared (o : Opening) (removed : List Sent) :
    Tracks fun s r => ∃ k due queued extra, s = o.state k ∧
      Spared o removed k due queued extra r where
  react := by
    rintro _ r ⟨k, due, queued, extra, rfl, h⟩
    cases queued with
    | cons q queued =>
      obtain ⟨hs, halone | ⟨r', hr, hboth⟩⟩ := h.ignores
      · exact .inr (.inl ⟨_, hs, k + 1, _, _, _, rfl, halone⟩)
      · exact .inl ⟨_, r', hs, hr, k + 1, _, _, _, rfl, hboth⟩
    | nil =>
      have hrel := h.reacts
      generalize (o.state k).react = x at hrel
      generalize r.react = y at hrel
      cases hrel with
      | some h' => exact .inl ⟨_, _, rfl, rfl, k + 1, _, _, _, h'.1, h'.2⟩
      | none => exact .inr (.inr ⟨rfl, rfl⟩)
  isOver := by
    rintro _ r ⟨k, due, queued, extra, rfl, h⟩
    exact h.inStep.isOver_iff
  wait := by
    rintro _ r t ⟨k, due, queued, extra, rfl, h⟩ hs hr hover hfirst hws hwr
    cases queued with
    | cons q queued =>
      rw [h.ignores.1] at hs
      cases hs
    | nil =>
      have ht : (o.state k).wake? = some t := by
        rcases hfirst with hs | hr
        · exact hs
        · obtain ⟨u, hu, hle⟩ := h.inStep.wake_before hr
          rw [hu, Nat.le_antisymm hle (hws u hu)]
      obtain ⟨hnext, due', queued', extra', h'⟩ := h.waits hs hover ht
      exact ⟨k + 1, due', queued', extra', hnext, h'⟩

/-- At first everything that is left out is still to come. -/
theorem spared_zero {removed : List Sent} {rest : List Due} (sorted : Due.Sorted o.world.agenda)
    (without : Interspersed (removed.map Sent.due) rest o.world.agenda)
    (arrive : ∀ s ∈ removed, o.ArrivesDuringStartup s.time) :
    Spared o removed 0 removed [] [] ((o.onAgenda rest).state 0) := by
  obtain ⟨url, hstart⟩ := o.state_zero
  have hlate : ∀ s ∈ removed, (o.state 0).world.now < s.time := fun s hs => by
    obtain ⟨i, j, hup, hi, -⟩ := arrive s hs
    exact Nat.lt_of_le_of_lt (now_le (Nat.zero_le i) hup.not_over) hi
  have hover : ¬(o.state 0).IsOver := by
    rintro ⟨t, ht⟩
    rw [hstart] at ht
    cases ht
  have hlacks : World.Lacks removed [] [] o.world (o.world.withAgenda rest) :=
    ⟨rfl, without, sorted, rfl, rfl, rfl, rfl, rfl, rfl, rfl, rfl, .refl _, rfl, rfl, .refl _⟩
  have hworld : World.Lacks removed [] [] (o.world.advanceTo o.world.now)
      ((o.world.withAgenda rest).advanceTo o.world.now) := by
    refine hlacks.advanceTo_unreached fun s hs => ?_
    have hnow : (o.state 0).world.now = max o.world.now o.world.now := by
      rw [hstart]
      exact World.advanceTo_now _ _
    rw [← Nat.max_self o.world.now, ← hnow]
    exact hlate s hs
  refine ⟨inStep_zero rfl rfl hworld, fun s hs => ?_, nofun, fun hne => absurd rfl hne, .refl _⟩
  obtain ⟨i, j, hup, hi, hj⟩ := arrive s hs
  exact ⟨hlate s hs, i, j, hup, lt_of_now_lt hover (Nat.lt_trans (hlate s hs) hj), hi, hj⟩

/-- Where the record of a startup tells of nothing but a command that is ignored, that is all that
has happened. -/
theorem ignore_of_record {race : Option Race} {c : Command} {t : Nat}
    (hp : (o.state k).phase = .probing race) (h : (o.state (k + 1)).world.trace =
      (t, .note (.commandIgnored c)) :: (o.state k).world.trace) :
    c ≠ .quit ∧ ∃ rest, (o.state k).world.queue = c :: rest ∧
      o.state (k + 1) = (o.state k).ignore c rest := by
  have hup := (Sound.probing hp).1 (o.sound k)
  have hmachine : (o.state (k + 1)).machine = (o.state k).machine := by
    have hstory : o.story (k + 1) = o.story k := by
      simp [story, World.acts, actsOf, h, Event.isAct, Note.isAct]
    have hreplay := o.replay (k + 1)
    rw [hstory, o.replay k] at hreplay
    exact (Option.some.inj hreplay).symm
  have hstate : (o.state (k + 1)).machine.state = .probing := by rw [hmachine, hup.state]
  obtain ⟨race', hp'⟩ : ∃ race', (o.state (k + 1)).phase = .probing race' := by
    have hsound := o.sound (k + 1)
    have hrest (hr : (o.state (k + 1)).AtRest) : False := by
      have := hr.state
      rw [hstate] at this
      rcases this with h | h | h <;> cases h
    cases hphase : (o.state (k + 1)).phase with
    | probing race' => exact ⟨race', rfl⟩
    | hosting => exact (hrest ((Sound.hosting hphase).1 hsound)).elim
    | reviving => exact (hrest ((Sound.reviving hphase).1 hsound).1).elim
    | launching =>
      unfold Sound at hsound
      rw [hphase] at hsound
      rw [hsound.1] at hstate
      cases hstate
    | finished t =>
      have := ((Sound.finished hphase).1 hsound).1
      rw [hstate] at this
      cases this
  cases startsOn hp hp' with
  | ignores c' rest queue idle unseen react eq =>
    rw [eq] at h
    cases h
    exact ⟨idle, rest, queue, eq⟩
  | looks w race queue held watched record eq =>
    obtain ⟨t', e, ht, he⟩ := record
    have hw : w.trace = (t, .note (.commandIgnored c)) :: (o.state k).world.trace := by
      rw [← h, eq]
      rfl
    rw [ht] at hw
    cases hw
    exact absurd rfl (he c)
  | waits u queue held eq =>
    obtain ⟨new, hnew, hall⟩ := (o.state k).world.trace_advanceTo u
    have hw : ((o.state k).world.advanceTo u).trace =
        [(t, .note (.commandIgnored c))] ++ (o.state k).world.trace := by
      rw [List.singleton_append, ← h, eq]
      rfl
    obtain rfl := List.append_cancel_right (hnew.symm.trans hw)
    cases hall _ List.mem_cons_self

/-- Commands that arrive after a child is spawned and before its startup is decided are ignored,
and make no difference. Without them the run ends at the same instant with the same report, and all
else that its record says it says at the same time and in the same order: what is left out is the
arrival of each of them, and the note that it was ignored as soon as it arrived. To ignore a
command is to take it from the queue, no more: the race and its timers, the commands behind it and
the clock are left alone, and there is no window that it could have closed. -/
theorem ignored_commands_neutral (sorted : Due.Sorted o.world.agenda) {removed : List Sent}
    {rest : List Due} (without : Interspersed (removed.map Sent.due) rest o.world.agenda)
    (arrive : ∀ s ∈ removed, o.ArrivesDuringStartup s.time) :
    (o.onAgenda rest).session.play.finishedAt? = o.session.play.finishedAt? ∧
    (o.onAgenda rest).session.play.report = o.session.play.report ∧
    (∃ extra, extra.Perm (removed.flatMap Sent.record) ∧
      Interspersed extra (o.onAgenda rest).session.play.world.events
        o.session.play.world.events) ∧
    ∀ k race c t, (o.state k).phase = .probing race → (o.state (k + 1)).world.trace =
        (t, .note (.commandIgnored c)) :: (o.state k).world.trace →
      c ≠ .quit ∧ (o.state k).windowOpen = false ∧ ∃ rest, (o.state k).world.queue = c :: rest ∧
        o.state (k + 1) = (o.state k).ignore c rest := by
  obtain ⟨_, r, c, c', ⟨k, due, queued, extra, rfl, h⟩, hstuck, -, hrun, hrun'⟩ :=
    (o.tracks_spared removed).run ⟨0, removed, [], [], rfl, spared_zero sorted without arrive⟩
  have hplay : o.session.play = (o.state k).atClock c := (o.play_eq_run 0).trans hrun
  have hplay' : (o.onAgenda rest).session.play = r.atClock c' :=
    ((o.onAgenda rest).play_eq_run 0).trans hrun'
  obtain rfl : due = [] := List.eq_nil_iff_forall_not_mem.2 fun s hs =>
    (h.expected s hs).not_stuck hstuck
  obtain rfl : queued = [] := by
    by_contra hne
    obtain ⟨i, j, -, -, hkj, hnow⟩ := h.underway hne
    rw [state_of_stuck hstuck (Nat.le_of_lt hkj)] at hnow
    exact Nat.lt_irrefl _ hnow
  refine ⟨?_, ?_, ⟨extra.reverse, ?_, ?_⟩, fun k race c t hp ht => ?_⟩
  · rw [hplay, hplay']
    exact (h.inStep.finishedAt?.trans Option.map_id').symm
  · rw [hplay, hplay']
    exact h.inStep.report.symm
  · have haccount := h.account
    rw [List.map_nil, List.append_nil, List.flatMap_nil, List.append_nil] at haccount
    exact extra.reverse_perm.trans haccount
  · rw [hplay, hplay']
    exact h.inStep.world.record.reverse
  · obtain ⟨hc, hrest⟩ := ignore_of_record hp ht
    exact ⟨hc, ((Sound.probing hp).1 (o.sound k)).closed, hrest⟩

/-- Nothing is heard of the backend. After one millisecond the session is activated, after two a
window is said to be closed, and after ten it is to quit. -/
def hastyWorld : World :=
  { World.empty with
    files := ⟨[([[98]], .file true)]⟩
    agenda := [⟨1, .command .activate⟩, ⟨2, .command .windowClosed⟩, ⟨10, .command .quit⟩] }

def hastyRun : Opening := crashingRun.inWorld hastyWorld rfl rfl

/-- The startup goes on until the quit comes. -/
theorem hasty_startsUp : hastyRun.StartsUp 0 7 where
  before := by decide
  spawned := ⟨0, hastyRun.session.launch, by decide⟩
  listens := rfl
  goesOn m hm hj := by
    have hall : ∀ m ≤ 7, 0 < m → ∃ race, (hastyRun.state m).phase = .probing race := by
      decide +kernel
    exact hall m hj hm

/-- So the quit alone makes the same run. -/
theorem hasty_commands_neutral :
    (hastyRun.onAgenda [⟨10, .command .quit⟩]).session.play.finishedAt? =
      hastyRun.session.play.finishedAt? ∧
    ∃ extra, extra.Perm [(1, .command .activate (some true)), (1, .note (.commandIgnored .activate)),
        (2, .command .windowClosed (some true)), (2, .note (.commandIgnored .windowClosed))] ∧
      Interspersed extra (hastyRun.onAgenda [⟨10, .command .quit⟩]).session.play.world.events
        hastyRun.session.play.world.events := by
  have hsorted : Due.Sorted hastyRun.world.agenda := by decide
  have hwithout : Interspersed (([⟨1, .activate⟩, ⟨2, .windowClosed⟩] : List Sent).map Sent.due)
      [⟨10, .command .quit⟩] hastyRun.world.agenda := .extra _ (.extra _ (.kept _ .nil))
  have harrive : ∀ s ∈ ([⟨1, .activate⟩, ⟨2, .windowClosed⟩] : List Sent),
      hastyRun.ArrivesDuringStartup s.time :=
    List.forall_mem_cons.2 ⟨⟨0, 7, hasty_startsUp, by decide, by decide⟩,
      List.forall_mem_cons.2 ⟨⟨0, 7, hasty_startsUp, by decide, by decide⟩, nofun⟩⟩
  obtain ⟨hfinished, -, hrecord, -⟩ := ignored_commands_neutral hsorted hwithout harrive
  exact ⟨hfinished, hrecord⟩

end Opening
end DesktopHost
