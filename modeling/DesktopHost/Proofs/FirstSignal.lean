import DesktopHost.Proofs.Acts
import DesktopHost.Proofs.Foresight
import DesktopHost.Proofs.Watching

/-!
The readiness race is decided by the first of its three signals: the marker line, the end of the
health poll as it would come on its own, and the startup timeout.
-/

set_option autoImplicit false

namespace DesktopHost

namespace World.Watched

variable {w w' : World}

theorem child? (h : w.Watched w') (i t : Nat) :
    (w'.advanceTo t).child? i = (w.advanceTo t).child? i := by
  rw [child?_advanceTo, child?_advanceTo, h.agenda]
  simp only [World.child?, h.children]

theorem latchFired (h : w.Watched w') (i t : Nat) :
    (w'.advanceTo t).latchFired i = (w.advanceTo t).latchFired i := by
  simp only [World.latchFired, h.child? i t]

end World.Watched

namespace Poll

variable {limits : ReadinessConfig} {w w' : World} {p p' : Poll} {o : PollOutcome}

theorem run_of_done (h : p.step limits w = .done w' o) : run limits w p = (w', o) := by
  rw [run]
  split <;> simp_all

theorem run_of_moved (h : p.step limits w = .moved w' p') :
    run limits w p = run limits w' p' := by
  rw [run]
  split <;> simp_all

theorem run_of_blocked (h : p.step limits w = .blocked) :
    run limits w p = run limits (w.advanceTo p.due) p := by
  rw [run]
  split <;> simp_all

theorem step_eq_blocked_iff : p.step limits w = .blocked ↔ w.now < p.due := by
  refine ⟨due_of_blocked, fun h => ?_⟩
  obtain ⟨attempts, stage⟩ := p
  unfold due at h
  unfold step
  cases stage with
  | resting wake => exact if_neg (by dsimp only at h; omega)
  | checking answer deadline =>
    have hs : settled? limits w.now answer deadline = none := by
      unfold settled?
      cases answer with
      | none =>
        dsimp only at h ⊢
        rw [if_neg (by omega)]
      | some a =>
        obtain ⟨time, result⟩ := a
        dsimp only at h ⊢
        rw [if_neg (by omega), if_neg (by omega)]
    dsimp only
    rw [hs]

/-- A poll does not mind being watched on the way to its next instant. -/
theorem run_advanceTo (h : w.now < p.due) {t : Nat} (ht : t ≤ p.due) :
    run limits (w.advanceTo t) p = run limits w p := by
  rw [run_of_blocked (w := w) (step_eq_blocked_iff.2 h)]
  rcases Nat.eq_or_lt_of_le ht with rfl | hlt
  · rfl
  · have hnow : (w.advanceTo t).now < p.due := by rw [World.advanceTo_now]; omega
    rw [run_of_blocked (step_eq_blocked_iff.2 hnow), World.advanceTo_advanceTo w ht]

theorem now_le_run (limits : ReadinessConfig) (w : World) (p : Poll) :
    w.now ≤ (run limits w p).1.now := by
  fun_induction run limits w p with
  | case1 w p w' o h => rw [(watched_of_done h).now]
  | case2 w p w' p' h ih => rw [← (watched_of_moved h).now]; exact ih
  | case3 w p h ih => rw [World.advanceTo_now] at ih; omega

/-- A poll that has to wait does not end before its next instant. -/
theorem due_le_run (limits : ReadinessConfig) (h : w.now < p.due) :
    p.due ≤ (run limits w p).1.now := by
  rw [run_of_blocked (step_eq_blocked_iff.2 h)]
  have hle := now_le_run limits (w.advanceTo p.due) p
  rw [World.advanceTo_now] at hle
  omega

end Poll

namespace Race

variable {limits : ReadinessConfig}

/-- When the first marker line would be read. -/
noncomputable def outputTime (w : World) (r : Race) : ℕ∞ :=
  w.firstTime fun v => v.latchFired r.child = true

/-- When the poll would end on its own. -/
def pollTime (limits : ReadinessConfig) (w : World) (r : Race) : Nat :=
  (r.poll.run limits w).1.now

def timeoutTime (limits : ReadinessConfig) (w : World) (r : Race) : Nat :=
  max w.now (r.deadline limits)

/-- A race decided at `t`: its signal is one whose time that is, and no other time is earlier. -/
structure DecidedAt (limits : ReadinessConfig) (w : World) (r : Race) (t : Nat)
    (signal : ReadinessSignal) : Prop where
  first : (t : ℕ∞) = min (outputTime w r) (min (pollTime limits w r) (timeoutTime limits w r))
  winner : signal = .outputMatched ∧ outputTime w r = t ∨
    signal = (r.poll.run limits w).2.signal ∧ pollTime limits w r = t ∨
    signal = .startupTimeout ∧ timeoutTime limits w r = t

variable {w w' : World} {r r' : Race} {signal : ReadinessSignal} {t : Nat}

theorem DecidedAt.transfer (h : DecidedAt limits w' r' t signal)
    (ho : outputTime w' r' = outputTime w r)
    (hp : r'.poll.run limits w' = r.poll.run limits w)
    (ht : timeoutTime limits w' r' = timeoutTime limits w r) :
    DecidedAt limits w r t signal := by
  have hpt : pollTime limits w' r' = pollTime limits w r := by rw [pollTime, hp, pollTime]
  exact ⟨by rw [← ho, ← hpt, ← ht]; exact h.first,
    by rw [← ho, ← hpt, ← ht, ← hp]; exact h.winner⟩

theorem decidedAt_of_resolved (h : r.step limits w = .resolved w' signal) :
    DecidedAt limits w r w.now signal := by
  have ho : (w.now : ℕ∞) ≤ outputTime w r := w.now_le_firstTime _
  have hp : w.now ≤ pollTime limits w r := Poll.now_le_run limits w r.poll
  have ht : w.now ≤ timeoutTime limits w r := Nat.le_max_left _ _
  have hall : (w.now : ℕ∞) ≤
      min (outputTime w r) (min (pollTime limits w r) (timeoutTime limits w r)) :=
    le_min ho (le_min (Nat.cast_le.2 hp) (Nat.cast_le.2 ht))
  obtain ⟨hl, hs⟩ | ⟨-, v, out, hd, hs⟩ | ⟨-, -, hd, hs⟩ := step_eq_resolved h
  · have he : outputTime w r = w.now :=
      w.firstTime_of_advanceTo_now (w.latchFired_mono hl w.now)
    exact ⟨le_antisymm hall (min_le_of_left_le he.le), .inl ⟨hs, he⟩⟩
  · have hrun := Poll.run_of_done hd
    have he : pollTime limits w r = w.now := by rw [pollTime, hrun, (Poll.watched_of_done hd).now]
    refine ⟨le_antisymm hall (min_le_of_right_le (min_le_of_left_le ?_)), .inr (.inl ⟨?_, he⟩)⟩
    · rw [he]
    · rw [hs, hrun]
  · have he : timeoutTime limits w r = w.now := Nat.max_eq_left hd
    refine ⟨le_antisymm hall (min_le_of_right_le (min_le_of_right_le ?_)), .inr (.inr ⟨hs, he⟩)⟩
    rw [he]

theorem wake_le_due (limits : ReadinessConfig) (w : World) (r : Race) :
    r.wake limits w ≤ r.due limits := by
  unfold wake
  split
  · exact Nat.min_le_right _ _
  · exact Nat.le_refl _

theorem upTo_of_lt_wake (h : t < r.wake limits w) : Due.upTo t w.agenda = [] := by
  refine w.upTo_of_lt_next fun u hu => ?_
  unfold wake at h
  rw [hu] at h
  exact Nat.lt_of_lt_of_le h (Nat.min_le_left _ _)

/-- The race run to its end is decided by the first of the three. -/
theorem run_decided (limits : ReadinessConfig) (w : World) (r : Race) :
    DecidedAt limits w r (run limits w r).1.now (run limits w r).2 := by
  fun_induction run limits w r with
  | case1 w r w' signal h =>
    rw [(watched_of_resolved h).now]
    exact decidedAt_of_resolved h
  | case2 w r w' r' h ih =>
    obtain ⟨-, p, hp, rfl⟩ := step_eq_moved h
    have hw := watched_of_moved h
    refine ih.transfer ?_ (Poll.run_of_moved hp).symm ?_
    · exact (w.firstTime_congr hw.now fun t => by rw [hw.latchFired]).symm
    · rw [timeoutTime, timeoutTime, hw.now]
      rfl
  | case3 w r h ih =>
    obtain ⟨hl, hp, hd⟩ := step_eq_blocked h
    have hlt := Poll.due_of_blocked hp
    have hwake := wake_le_due limits w r
    have hpoll : r.due limits ≤ r.poll.due := Nat.min_le_left _ _
    have hdead : r.due limits ≤ r.deadline limits := Nat.min_le_right _ _
    refine ih.transfer ?_ (Poll.run_advanceTo hlt (Nat.le_trans hwake hpoll)) ?_
    · refine w.firstTime_advanceTo fun t _ ht => ?_
      rw [w.advanceTo_of_upTo_nil (upTo_of_lt_wake ht)]
      exact Bool.eq_false_iff.1 hl
    · rw [timeoutTime, timeoutTime, World.advanceTo_now]
      omega

/-- The race from its start to its end, where nothing goes on but the world. -/
def alone (limits : ReadinessConfig) (w : World) (child : Nat) : World × ReadinessSignal :=
  run limits (start limits w child).1 (start limits w child).2

end Race

namespace Output

/-- Lines are read in the order of their instants. -/
theorem timelineFrom_sorted (r : Reader) (start : Nat) (chunks : List Chunk) :
    (∀ l ∈ timelineFrom r start chunks, start ≤ l.1) ∧
      (timelineFrom r start chunks).Pairwise fun a b => a.1 ≤ b.1 := by
  induction chunks generalizing r start with
  | nil => exact ⟨fun _ hl => absurd hl List.not_mem_nil, List.Pairwise.nil⟩
  | cons c rest ih =>
    obtain ⟨hle, hsorted⟩ := ih (r.feed c).1 (max start c.time)
    have heq : timelineFrom r start (c :: rest) = (r.feed c).2.map (max start c.time, ·) ++
        timelineFrom (r.feed c).1 (max start c.time) rest := rfl
    have hnow : ∀ l ∈ (r.feed c).2.map (max start c.time, ·), l.1 = max start c.time := by
      intro l hl
      obtain ⟨text, -, rfl⟩ := List.mem_map.1 hl
      rfl
    rw [heq]
    refine ⟨fun l hl => ?_, List.pairwise_append.2 ⟨?_, hsorted, fun a ha b hb => ?_⟩⟩
    · rcases List.mem_append.1 hl with hl | hl
      · rw [hnow l hl]; exact Nat.le_max_left _ _
      · exact Nat.le_trans (Nat.le_max_left _ _) (hle l hl)
    · exact List.pairwise_of_forall_mem_list fun a ha b hb => by rw [hnow a ha, hnow b hb]
    · rw [hnow a ha]
      exact hle b hb

/-- The first line with a marker, by its instant. -/
def firstMarker? (markers : List String) (chunks : List Chunk) : Option Nat :=
  ((timeline chunks).find? fun l => lineSignalsReady markers l.2).map (·.1)

theorem firstMarker?_spec (markers : List String) (chunks : List Chunk) (t : Nat) :
    (∃ l ∈ timeline chunks, l.1 ≤ t ∧ lineSignalsReady markers l.2 = true) ↔
      ∃ a, firstMarker? markers chunks = some a ∧ a ≤ t := by
  have hsorted := (timelineFrom_sorted .new 0 chunks).2
  unfold firstMarker?
  constructor
  · rintro ⟨l, hl, hlt, hm⟩
    cases hf : (timeline chunks).find? fun l => lineSignalsReady markers l.2 with
    | none => exact absurd hm (List.find?_eq_none.1 hf l hl)
    | some a =>
      refine ⟨a.1, rfl, Nat.le_trans ?_ hlt⟩
      -- `a` stands before every other line with a marker
      obtain ⟨-, as, bs, heq, hbefore⟩ := List.find?_eq_some_iff_append.1 hf
      have heq' : timelineFrom .new 0 chunks = as ++ a :: bs := heq
      rw [heq] at hl
      rw [heq', List.pairwise_append] at hsorted
      rcases List.mem_append.1 hl with hl | hl
      · have := hbefore l hl
        rw [hm] at this
        cases this
      · rcases List.mem_cons.1 hl with rfl | hl
        · exact Nat.le_refl _
        · exact (List.pairwise_cons.1 hsorted.2.1).1 l hl
  · rintro ⟨a, ha, hle⟩
    obtain ⟨l, hf, rfl⟩ := Option.map_eq_some_iff.1 ha
    have hm := List.find?_some hf
    exact ⟨l, List.mem_of_find?_eq_some hf, hle, hm⟩

end Output

namespace World

/-- The script that the next child will follow. -/
def nextScript (w : World) : ChildScript := (nextOf .inert w.childScripts).1

theorem now_lt_sleep (now t : Nat) : now < now + sleepLength (t + 1) := by
  unfold sleepLength longestSleep
  omega

/-- A new child has its script, and only what that sets for later is on the agenda. -/
theorem spawn_ok {w w₁ : World} {l : Launch} {i : Nat} (spawned : w.spawn l = (w₁, .ok i)) :
    i = w.children.length ∧ w₁.now = w.now ∧
      (∃ c, w₁.child? i = some c ∧ c.script = w.nextScript) ∧
      ∃ others, w₁.agenda = Due.insertAll others w.agenda ∧
        ∀ d ∈ others, w.now < d.time ∧ ∀ j markers, d.signals j markers = false := by
  unfold spawn at spawned
  dsimp only at spawned
  split at spawned
  · cases spawned
  · cases spawned
    refine ⟨rfl, rfl, ⟨_, child?_append_self _ _, ?_⟩, _, rfl, fun d hd => ?_⟩
    · split <;> split <;> first | exact (Child.publish_frame _ _).2.1 | rfl
    · rcases List.mem_append.1 hd with hd | hd
      · split at hd
        · rw [List.mem_singleton.1 hd]
          exact ⟨now_lt_sleep _ _, fun _ _ => rfl⟩
        · cases hd
      · split at hd
        · rw [List.mem_singleton.1 hd]
          exact ⟨now_lt_sleep _ _, fun _ _ => rfl⟩
        · cases hd

theorem attachReaders_eq {w : World} {i : Nat} {c : Child} (hc : w.child? i = some c)
    (markers : List String) : w.attachReaders i markers =
      (w.updateChild i fun c => { c with latch := .new markers }).schedule
        (linesDue w.now i .stdout c.script.stdout ++ linesDue w.now i .stderr c.script.stderr) := by
  unfold attachReaders
  rw [hc]
  rfl

/-- What a new backend finds: a fresh latch, and its own lines on the agenda. -/
theorem spawnBackend_ok {w w₁ : World} {l : Launch} {markers : List String} {h : Handle}
    (spawned : w.spawnBackend l markers = (w₁, .ok h)) :
    h.child = w.children.length ∧ w₁.now = w.now ∧
      (∃ c, w₁.child? h.child = some c ∧ c.latch = .new markers) ∧
      ∃ others, w₁.agenda = Due.insertAll (linesDue w.now h.child .stdout w.nextScript.stdout ++
          linesDue w.now h.child .stderr w.nextScript.stderr) (Due.insertAll others w.agenda) ∧
        ∀ d ∈ others, w.now < d.time ∧ ∀ j markers, d.signals j markers = false := by
  unfold spawnBackend at spawned
  split at spawned
  · split at spawned
    · cases spawned
    · next w' i hs =>
      cases spawned
      obtain ⟨hi, hnow, ⟨c, hc, hscript⟩, others, hagenda, hothers⟩ := spawn_ok hs
      have hchild : (Handle.ofChild w' i).child = i := by
        unfold Handle.ofChild
        rw [hc]
      dsimp only
      rw [hchild, attachReaders_eq hc, hscript, hnow]
      refine ⟨hi, hnow, ⟨{ c with latch := .new markers }, ?_, rfl⟩, others, ?_, hothers⟩
      · refine (w'.child?_updateChild i i _).trans ?_
        rw [if_pos rfl, hc]
        rfl
      · exact congrArg (Due.insertAll _) hagenda
  · cases spawned

/-- The latch of a new backend fires with the first line of its output that holds a marker. -/
theorem latchFired_of_spawned {w w₁ : World} {l : Launch} {markers : List String} {h : Handle}
    (spawned : w.spawnBackend l markers = (w₁, .ok h))
    (fresh : ∀ d ∈ w.agenda, d.signals w.children.length markers = false) (t : Nat) :
    (w₁.advanceTo t).latchFired h.child = true ↔
      ∃ a, Output.firstMarker? markers (w.nextScript.stdout.getD []) = some a ∧ w.now + a ≤ t := by
  obtain ⟨hchild, -, ⟨c, hc, hlatch⟩, others, hagenda, hothers⟩ := spawnBackend_ok spawned
  have hfired : c.latch.fired = false := by rw [hlatch]; rfl
  have hmarkers : c.latch.markers = markers := by rw [hlatch]; rfl
  rw [latchFired_advanceTo w₁ hc, hfired, hmarkers, Bool.false_or, List.any_eq_true, hagenda]
  simp only [Due.mem_upTo_insertAll, List.mem_append]
  constructor
  · rintro ⟨d, ((hd | ⟨hd, -⟩) | ⟨hd | hd, hle⟩), hs⟩
    · have := fresh d (List.takeWhile_subset _ hd)
      rw [← hchild, hs] at this
      cases this
    · rw [(hothers d hd).2] at hs
      cases hs
    · obtain ⟨line, hline, rfl⟩ := List.mem_map.1 hd
      simp only [Due.signals, decide_true, Bool.true_and] at hs
      dsimp only at hle
      obtain ⟨a, ha, hat⟩ := (Output.firstMarker?_spec markers _ (t - w.now)).1
        ⟨line, hline, by omega, hs⟩
      exact ⟨a, ha, by omega⟩
    · obtain ⟨line, -, rfl⟩ := List.mem_map.1 hd
      cases hs
  · rintro ⟨a, ha, hle⟩
    obtain ⟨line, hline, hlt, hm⟩ := (Output.firstMarker?_spec markers _ (t - w.now)).2
      ⟨a, ha, by omega⟩
    refine ⟨⟨w.now + line.1, .line h.child .stdout line.2⟩,
      .inr ⟨.inl (List.mem_map.2 ⟨line, hline, rfl⟩), ?_⟩, ?_⟩
    · dsimp only
      omega
    · simp [Due.signals, hm]

theorem startCheck_trace (w : World) :
    w.startCheck.1.trace = (w.now, .healthCall (w.checks + 1)) :: w.trace := by
  unfold startCheck
  dsimp only
  split <;> rfl

theorem mem_calls {w w' : World} (h : w'.deeds = w.deeds) {time n : Nat}
    (hm : (time, .healthCall n) ∈ w'.trace) : (time, .healthCall n) ∈ w.trace := by
  have hd : (time, .healthCall n) ∈ w'.deeds := List.mem_filter.2 ⟨hm, rfl⟩
  rw [h] at hd
  exact (List.mem_filter.1 hd).1

end World

namespace Race

theorem calls_of_moved {limits : ReadinessConfig} {w w' : World} {r r' : Race} {time n : Nat}
    (h : r.step limits w = .moved w' r') (hm : (time, .healthCall n) ∈ w'.trace) :
    (time, .healthCall n) ∈ w.trace ∨ time = w.now := by
  obtain ⟨-, p, hp, -⟩ := step_eq_moved h
  obtain ⟨-, -, e, -, -, -, rfl, -⟩ | ⟨wake, -, -, hc⟩ := Poll.step_eq_moved hp
  · rcases List.mem_cons.1 hm with hm | hm
    · cases hm
    · exact .inl hm
  · rw [show w' = w.startCheck.1 from congrArg Prod.fst hc, World.startCheck_trace] at hm
    rcases List.mem_cons.1 hm with hm | hm
    · exact .inr (congrArg Prod.fst hm)
    · exact .inl hm

/-- Resolving a race is not an act on the world. -/
theorem deeds_of_resolved {limits : ReadinessConfig} {w w' : World} {r : Race}
    {signal : ReadinessSignal} (h : r.step limits w = .resolved w' signal) :
    w'.deeds = w.deeds := by
  have hresolve {w : World} {s : ReadinessSignal} (h : resolve w r s = .resolved w' signal) :
      w'.deeds = w.deeds := by
    unfold resolve at h
    split at h <;> cases h
    · rfl
    · exact w.deeds_note rfl
  unfold step at h
  split at h
  · exact hresolve h
  · split at h
    · next v out hp =>
      rw [hresolve h]
      obtain ⟨-, -, -, -, -, ⟨-, hv, -⟩ | ⟨e, -, -, hv, -⟩⟩ := Poll.step_eq_done hp
      · rw [hv]
      · rw [hv, World.deeds_note _ rfl, World.deeds_note _ rfl]
    · cases h
    · split at h
      · exact hresolve h
      · cases h

theorem now_le_run (limits : ReadinessConfig) (w : World) (r : Race) :
    w.now ≤ (run limits w r).1.now := by
  fun_induction run limits w r with
  | case1 w r w' signal h => rw [(watched_of_resolved h).now]
  | case2 w r w' r' h ih => rw [← (watched_of_moved h).now]; exact ih
  | case3 w r h ih => rw [World.advanceTo_now] at ih; omega

theorem now_le_alone (limits : ReadinessConfig) (w : World) (i : Nat) :
    w.now ≤ (alone limits w i).1.now := by
  rw [← w.watched_startCheck.now]
  exact now_le_run limits _ _

theorem calls_of_run (limits : ReadinessConfig) (w : World) (r : Race) {time n : Nat}
    (hm : (time, .healthCall n) ∈ (run limits w r).1.trace) :
    (time, .healthCall n) ∈ w.trace ∨ time ≤ (run limits w r).1.now := by
  have hle := now_le_run limits w r
  fun_induction run limits w r with
  | case1 w r w' signal h => exact .inl (World.mem_calls (deeds_of_resolved h) hm)
  | case2 w r w' r' h ih =>
    rcases ih hm (now_le_run limits w' r') with hm | ht
    · rcases calls_of_moved h hm with hm | rfl
      · exact .inl hm
      · exact .inr hle
    · exact .inr ht
  | case3 w r h ih =>
    rcases ih hm (now_le_run limits _ r) with hm | ht
    · exact .inl (World.mem_calls (w.deeds_advanceTo _) hm)
    · exact .inr ht

variable {limits : ReadinessConfig}

/-- When the first marker line is read, counted from `delay` after the spawn. -/
def untilMarker (markers : List String) (script : ChildScript) (delay : Nat) : ℕ∞ :=
  match Output.firstMarker? markers (script.stdout.getD []) with
  | some t => ((t - delay : Nat) : ℕ∞)
  | none => ⊤

/-- How long the health poll takes on its own. -/
def untilPolled (limits : ReadinessConfig) (w : World) : Nat :=
  (Poll.pollHealth limits w).1.now - w.now

theorem firstTime_latchFired {w₀ w₁ : World} {l : Launch} {h : Handle} {markers : List String}
    (spawned : w₀.spawnBackend l markers = (w₁, .ok h))
    (fresh : ∀ d ∈ w₀.agenda, d.signals w₀.children.length markers = false) (delay : Nat)
    {w : World} (begins : w = w₁.advanceTo (w₁.now + delay)) :
    w.firstTime (fun v => v.latchFired h.child = true) =
      w.now + untilMarker markers w₀.nextScript delay := by
  have hnow : w.now = w₀.now + delay := by
    rw [begins, World.advanceTo_now, (World.spawnBackend_ok spawned).2.1]
    omega
  have hfired {t : Nat} (ht : w.now ≤ t) : (w.advanceTo t).latchFired h.child = true ↔
      ∃ a, Output.firstMarker? markers (w₀.nextScript.stdout.getD []) = some a ∧
        w₀.now + a ≤ t := by
    rw [begins, World.advanceTo_now] at ht
    rw [begins, w₁.advanceTo_advanceTo (by omega)]
    exact World.latchFired_of_spawned spawned fresh t
  unfold untilMarker
  cases hm : Output.firstMarker? markers (w₀.nextScript.stdout.getD []) with
  | none =>
    refine w.firstTime_of_never fun t ht hf => ?_
    obtain ⟨a, ha, -⟩ := (hfired ht).1 hf
    rw [hm] at ha
    cases ha
  | some a =>
    have hiff (t : Nat) (ht : w.now ≤ t) :
        (w.advanceTo t).latchFired h.child = true ↔ w₀.now + a ≤ t := by
      rw [hfired ht, hm]
      simp
    rw [w.firstTime_of_iff hiff, ← Nat.cast_add]
    congr 1
    omega

/-- A race on its own ends with the first of its three times. -/
theorem alone_times (limits : ReadinessConfig) (w : World) (i : Nat) :
    ((alone limits w i).1.now : ℕ∞) = min (w.firstTime fun v => v.latchFired i = true)
        (min (w.now + untilPolled limits w : Nat)
          (w.now + sleepLength limits.startupTimeout : Nat)) ∧
      ((alone limits w i).2 = .outputMatched ∧
          (w.firstTime fun v => v.latchFired i = true) = (alone limits w i).1.now ∨
        (alone limits w i).2 = (Poll.pollHealth limits w).2.signal ∧
          w.now + untilPolled limits w = (alone limits w i).1.now ∨
        (alone limits w i).2 = .startupTimeout ∧
          w.now + sleepLength limits.startupTimeout = (alone limits w i).1.now) := by
  have hstart : w.Watched (start limits w i).1 := w.watched_startCheck
  have houtput : outputTime (start limits w i).1 (start limits w i).2 =
      w.firstTime fun v => v.latchFired i = true :=
    (w.firstTime_congr hstart.now fun t => by rw [hstart.latchFired]; rfl).symm
  have hpolled : pollTime limits (start limits w i).1 (start limits w i).2 =
      w.now + untilPolled limits w := by
    have hmono : w.now ≤ (Poll.pollHealth limits w).1.now := by
      have := Poll.now_le_run limits (start limits w i).1 (start limits w i).2.poll
      rwa [hstart.now] at this
    exact (Nat.add_sub_cancel' hmono).symm
  have htimeout : timeoutTime limits (start limits w i).1 (start limits w i).2 =
      w.now + sleepLength limits.startupTimeout := by
    rw [timeoutTime, hstart.now]
    exact Nat.max_eq_right (Nat.le_add_right _ _)
  have hdecided := run_decided limits (start limits w i).1 (start limits w i).2
  rw [← houtput, ← hpolled, ← htimeout]
  exact ⟨hdecided.first, hdecided.winner⟩

/-- The three times of a race, counted from its start. -/
theorem alone_decided (limits : ReadinessConfig) {w₀ w₁ : World} {l : Launch} {h : Handle}
    (spawned : w₀.spawnBackend l limits.markers = (w₁, .ok h))
    (fresh : ∀ d ∈ w₀.agenda, d.signals w₀.children.length limits.markers = false)
    (delay : Nat) {w : World} (begins : w = w₁.advanceTo (w₁.now + delay)) :
    ∃ elapsed : Nat, (alone limits w h.child).1.now = w.now + elapsed ∧
      (elapsed : ℕ∞) = min (untilMarker limits.markers w₀.nextScript delay)
        (min (untilPolled limits w) (sleepLength limits.startupTimeout)) ∧
      ((alone limits w h.child).2 = .outputMatched ∧
          untilMarker limits.markers w₀.nextScript delay = elapsed ∨
        (alone limits w h.child).2 = (Poll.pollHealth limits w).2.signal ∧
          untilPolled limits w = elapsed ∨
        (alone limits w h.child).2 = .startupTimeout ∧
          sleepLength limits.startupTimeout = elapsed) := by
  obtain ⟨hfirst, hwinner⟩ := alone_times limits w h.child
  obtain ⟨elapsed, helapsed⟩ := Nat.exists_eq_add_of_le (now_le_alone limits w h.child)
  have hcancel : Function.Injective fun x : ℕ∞ => (w.now : ℕ∞) + x :=
    ENat.add_right_injective_of_ne_top (ENat.natCast_ne_top _)
  rw [firstTime_latchFired spawned fresh delay begins, helapsed] at hfirst hwinner
  refine ⟨elapsed, helapsed, hcancel ?_, ?_⟩
  · push_cast at hfirst
    rw [min_add_add_left, min_add_add_left] at hfirst
    exact hfirst
  · rcases hwinner with ⟨hs, ht⟩ | ⟨hs, ht⟩ | ⟨hs, ht⟩
    · refine .inl ⟨hs, hcancel ?_⟩
      push_cast at ht
      exact ht
    · exact .inr (.inl ⟨hs, by omega⟩)
    · exact .inr (.inr ⟨hs, by omega⟩)

/-- Every check of a race was made before it began, or no later than it was resolved, however
long the world goes on. -/
theorem calls_of_alone (limits : ReadinessConfig) (w : World) (child t time n : Nat)
    (hm : (time, .healthCall n) ∈ ((alone limits w child).1.advanceTo t).trace) :
    (time, .healthCall n) ∈ w.trace ∨ time ≤ (alone limits w child).1.now := by
  have hm : (time, .healthCall n) ∈ (alone limits w child).1.trace :=
    World.mem_calls (World.deeds_advanceTo _ t) hm
  rcases calls_of_run limits (start limits w child).1 (start limits w child).2 hm with hm | ht
  · rw [show (start limits w child).1.trace = _ from w.startCheck_trace] at hm
    rcases List.mem_cons.1 hm with hm | hm
    · rw [show time = w.now from congrArg Prod.fst hm]
      exact .inr (now_le_alone limits w child)
    · exact .inl hm
  · exact .inr ht

theorem signal_ne_outputMatched (out : PollOutcome) : out.signal ≠ .outputMatched := by
  cases out <;> exact nofun

/-- Whatever the backend prints and however its health is answered, the race is resolved with the
first of the three signals, at its instant; and then no further check is made. Output without a
marker never resolves it. A startup timeout counts for no more than the longest sleep. -/
theorem first_signal_wins (limits : ReadinessConfig) {w₀ w₁ : World} {l : Launch} {h : Handle}
    (spawned : w₀.spawnBackend l limits.markers = (w₁, .ok h))
    (fresh : ∀ d ∈ w₀.agenda, d.signals w₀.children.length limits.markers = false)
    (delay : Nat) {w w' : World} {signal : ReadinessSignal}
    (begins : w = w₁.advanceTo (w₁.now + delay))
    (resolves : alone limits w h.child = (w', signal)) :
    ∃ elapsed : Nat, w'.now = w.now + elapsed ∧
      (elapsed : ℕ∞) = min (untilMarker limits.markers w₀.nextScript delay)
        (min (untilPolled limits w) (sleepLength limits.startupTimeout)) ∧
      (signal = .outputMatched ∧ untilMarker limits.markers w₀.nextScript delay = elapsed ∨
        signal = (Poll.pollHealth limits w).2.signal ∧ untilPolled limits w = elapsed ∨
        signal = .startupTimeout ∧ sleepLength limits.startupTimeout = elapsed) ∧
      (∀ t time n, (time, .healthCall n) ∈ (w'.advanceTo t).trace →
        (time, .healthCall n) ∈ w.trace ∨ time ≤ w'.now) ∧
      (untilMarker limits.markers w₀.nextScript delay = ⊤ → signal ≠ .outputMatched) := by
  obtain ⟨elapsed, hnow, hfirst, hwinner⟩ := alone_decided limits spawned fresh delay begins
  have hcalls (t time n : Nat) := calls_of_alone limits w h.child t time n
  rw [resolves] at hnow hwinner hcalls
  refine ⟨elapsed, hnow, hfirst, hwinner, hcalls, ?_⟩
  rintro hnever rfl
  rw [hnever] at hwinner
  rcases hwinner with ⟨-, ht⟩ | ⟨hs, -⟩ | ⟨hs, -⟩
  · exact ENat.natCast_ne_top _ ht.symm
  · exact signal_ne_outputMatched _ hs.symm
  · cases hs

/-- A world with a program at `/dev/null`, which will follow `script`. -/
def stage (script : ChildScript) : World :=
  { World.empty with
    files := ⟨[([[100, 101, 118]], .dir), ([[100, 101, 118], [110, 117, 108, 108]], .file true)]⟩
    childScripts := [script] }

def stageLaunch : Launch := .forExecutable [47, 100, 101, 118, 47, 110, 117, 108, 108] []

/-- The stage with its child on it. -/
def acted (script : ChildScript) (markers : List String) : World :=
  ((stage script).spawnBackend stageLaunch markers).1

/-- A child that says after four milliseconds that it is ready. -/
def punctual : ChildScript :=
  { ChildScript.inert with stdout := some [⟨4, [114, 101, 97, 100, 121, 10], false, none⟩] }

/-- Where no check is answered, such a child is found ready three milliseconds after the first. -/
theorem punctual_wins : ∃ h w' signal,
    (stage punctual).spawnBackend stageLaunch ["ready"] = (acted punctual ["ready"], .ok h) ∧
    alone ⟨"/", ["ready"], 3, 500, 2000, 30000⟩ ((acted punctual ["ready"]).advanceTo 1) h.child =
      (w', signal) ∧
    ∃ elapsed : Nat, w'.now = ((acted punctual ["ready"]).advanceTo 1).now + elapsed ∧
      elapsed ≤ 3 := by
  obtain ⟨elapsed, hnow, hfirst, -⟩ := first_signal_wins
    ⟨"/", ["ready"], 3, 500, 2000, 30000⟩ (show (stage punctual).spawnBackend stageLaunch
      ["ready"] = (acted punctual ["ready"], .ok ⟨0, none, false, false, false⟩) from rfl)
    (by decide) 1 rfl rfl
  refine ⟨_, _, _, rfl, rfl, elapsed, hnow, ?_⟩
  have hle : (elapsed : ℕ∞) ≤ (3 : ℕ) := by
    rw [hfirst]
    exact min_le_of_left_le (show untilMarker ["ready"] punctual 1 = 3 from rfl).le
  exact Nat.cast_le.1 hle

/-- A child that neither says anything nor ends. -/
def mute : ChildScript := { ChildScript.inert with pid := some 3 }

/-- More patience than a sleep lasts. -/
def patient : ReadinessConfig :=
  { ReadinessConfig.default with
    requestTimeout := 2000000000000
    startupTimeout := 1000000000000 }

/-- A startup timeout of more than thirty years ends after thirty, though no other signal has come
by then. -/
theorem startup_timeout_cut_short : ∃ h elapsed,
    (stage mute).spawnBackend stageLaunch patient.markers = (acted mute patient.markers, .ok h) ∧
    (alone patient ((acted mute patient.markers).advanceTo 0) h.child).1.now =
      ((acted mute patient.markers).advanceTo 0).now + elapsed ∧
    elapsed = 946080000000 ∧
    min (untilMarker patient.markers mute 0)
      (min (untilPolled patient ((acted mute patient.markers).advanceTo 0) : ℕ∞)
        patient.startupTimeout) = (1000000000000 : ℕ) := by
  obtain ⟨elapsed, hnow, hfirst, -⟩ := alone_decided patient
    (show (stage mute).spawnBackend stageLaunch patient.markers =
      (acted mute patient.markers, .ok ⟨0, some 3, false, false, false⟩) from rfl) (by decide) 0
    (w := (acted mute patient.markers).advanceTo 0) rfl
  have hmarker : untilMarker patient.markers mute 0 = ⊤ := by rfl
  -- the first check is given up only after twice that time
  have hpolled : 2000000000000 ≤ untilPolled patient
      ((acted mute patient.markers).advanceTo 0) :=
    Poll.due_le_run patient
      (w := (Poll.start patient ((acted mute patient.markers).advanceTo 0)).1)
      (p := (Poll.start patient ((acted mute patient.markers).advanceTo 0)).2) (by decide)
  refine ⟨_, elapsed, rfl, hnow, ?_, ?_⟩
  · rw [show (stage mute).nextScript = mute from rfl, hmarker, min_eq_right le_top,
      min_eq_right (Nat.cast_le.2 (Nat.le_trans (by decide) hpolled))] at hfirst
    exact Nat.cast_injective hfirst
  · rw [hmarker, min_eq_right le_top]
    exact min_eq_right (Nat.cast_le.2 (Nat.le_trans (by decide) hpolled))

end Race
end DesktopHost
