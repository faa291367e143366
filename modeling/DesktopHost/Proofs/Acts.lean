import DesktopHost.Session.Step

/-!
The acts in the record of a world: what a session itself brings about. What goes on around it
(lines, commands, health checks, mere remarks) is no act. `World.Later` says which acts lie
between two worlds; every operation of a world is accounted for here, once.
-/

set_option autoImplicit false

namespace DesktopHost

def Note.isAct : Note → Bool
  | .transition .. | .cycleBegun _ | .readinessResolved .. | .quitRequested _
  | .shutdownFinished _ | .shutdownSkipped _ | .exitedAfterRequest .. | .cannotBegin ..
  | .transitionRejected .. => true
  | _ => false

namespace Event

def isAct : Event → Bool
  | .spawn .. | .signal .. | .openWindow _ | .dialog _ => true
  | .note n => n.isAct
  | .healthCall _ | .command .. | .exit .. | .line .. => false

def isSpawn : Event → Bool
  | .spawn .. => true
  | _ => false

def isDialog : Event → Bool
  | .dialog _ => true
  | _ => false

def isBegin : Event → Bool
  | .note (.cycleBegun _) => true
  | _ => false

end Event

def actsOf (record : List (Nat × Event)) : List Event := (record.map (·.2)).filter Event.isAct

@[simp] theorem actsOf_append (new old : List (Nat × Event)) :
    actsOf (new ++ old) = actsOf new ++ actsOf old := by
  simp [actsOf]

theorem mem_actsOf {record : List (Nat × Event)} {e : Event} :
    e ∈ actsOf record ↔ e.isAct = true ∧ ∃ t, (t, e) ∈ record := by
  simp only [actsOf, List.mem_filter, List.mem_map, Prod.exists]
  constructor
  · rintro ⟨⟨t, _, h, rfl⟩, ha⟩
    exact ⟨ha, t, h⟩
  · rintro ⟨ha, t, h⟩
    exact ⟨⟨t, e, h, rfl⟩, ha⟩

namespace World

def acts (w : World) : List Event := actsOf w.trace

/-- From `w` it has come to `w'`, with the acts `es` in between, newest first. -/
structure Later (w : World) (es : List Event) (w' : World) : Prop where
  record : ∃ new, w'.trace = new ++ w.trace ∧ actsOf new = es
  files : w'.files = w.files
  cwd : w'.cwd = w.cwd
  /-- Every spawn call counts, a failed one too. -/
  spawned : w'.children.length = w.children.length + es.countP Event.isSpawn
  known : ∀ i < w.children.length, (w'.child? i).isSome = (w.child? i).isSome
  /-- Every dialog uses up one entry. -/
  panics : w'.panics = w.panics.drop (es.countP Event.isDialog)

namespace Later

theorem refl (w : World) : Later w [] w :=
  ⟨⟨[], rfl, rfl⟩, rfl, rfl, rfl, fun _ _ => rfl, rfl⟩

theorem acts {w w' : World} {es : List Event} (h : Later w es w') : w'.acts = es ++ w.acts := by
  obtain ⟨new, ht, he⟩ := h.record
  rw [World.acts, ht, actsOf_append, he]
  rfl

theorem trans {a b c : World} {es fs : List Event} (h : Later a es b) (h' : Later b fs c) :
    Later a (fs ++ es) c := by
  obtain ⟨new, ht, he⟩ := h.record
  obtain ⟨new', ht', he'⟩ := h'.record
  refine ⟨⟨new' ++ new, ?_, ?_⟩, h'.files.trans h.files, h'.cwd.trans h.cwd, ?_, ?_, ?_⟩
  · rw [ht', ht, List.append_assoc]
  · rw [actsOf_append, he, he']
  · have h₁ := h.spawned
    have h₂ := h'.spawned
    rw [List.countP_append]
    omega
  · intro i hi
    have hb : i < b.children.length := by
      have h₁ := h.spawned
      omega
    rw [h'.known i hb, h.known i hi]
  · rw [h'.panics, h.panics, List.drop_drop, List.countP_append]
    congr 1
    omega

theorem quietly {a b c : World} {es : List Event} (h : Later a es b) (h' : Later b [] c) :
    Later a es c := h.trans h'

theorem retouch {w w' w'' : World} {es : List Event} (h : Later w es w')
    (ht : w''.trace = w'.trace) (hf : w''.files = w'.files) (hd : w''.cwd = w'.cwd)
    (hc : w''.children = w'.children) (hp : w''.panics = w'.panics) : Later w es w'' := by
  refine h.quietly ⟨⟨[], ht, rfl⟩, hf, hd, ?_, ?_, hp⟩
  · rw [hc]; rfl
  · intro i _
    simp only [child?, hc]

end Later

variable (w : World)

theorem later_emit {e : Event} (h : e.isAct = false) : w.Later [] (w.emit e) := by
  refine ⟨⟨[(w.now, e)], rfl, ?_⟩, rfl, rfl, rfl, fun _ _ => rfl, rfl⟩
  simp [actsOf, h]

theorem later_note {n : Note} (h : n.isAct = false) : w.Later [] (w.note n) :=
  w.later_emit (e := .note n) h

theorem later_act {e : Event} (h : e.isAct = true) (hs : e.isSpawn = false)
    (hd : e.isDialog = false) : w.Later [e] (w.emit e) := by
  refine ⟨⟨[(w.now, e)], rfl, ?_⟩, rfl, rfl, ?_, fun _ _ => rfl, ?_⟩
  · simp [actsOf, h]
  · simp [emit, hs]
  · simp [emit, hd]

theorem later_updateChild (i : Nat) (f : Child → Child) : w.Later [] (w.updateChild i f) := by
  refine ⟨⟨[], rfl, rfl⟩, rfl, rfl, ?_, ?_, rfl⟩
  · simp [updateChild]
  · intro j _
    simp only [updateChild, child?, List.getElem?_modify]
    cases w.children[j]? with
    | none => rfl
    | some c => by_cases hij : i = j <;> cases c <;> simp [hij]

theorem later_schedule (ds : List Due) : w.Later [] (w.schedule ds) :=
  (Later.refl w).retouch rfl rfl rfl rfl rfl

theorem later_publish (i : Nat) (code : Option Int32) : w.Later [] (w.publish i code) :=
  w.later_updateChild i _

theorem later_sendCommand (c : Command) : w.Later [] (w.sendCommand c) := by
  have hs : ∀ sent, w.Later [] (w.emit (.command c sent)) := fun _ => w.later_emit rfl
  unfold sendCommand
  split
  · split
    · exact (hs (some true)).retouch rfl rfl rfl rfl rfl
    · exact hs _
  · exact hs _

theorem later_readLine (i : Nat) (stream : StreamKind) (text : String) :
    w.Later [] (w.readLine i stream text) := by
  unfold readLine
  split
  · exact .refl w
  · next c _ =>
    have hl : w.Later [] (w.emit (.line c.pid stream text)) := w.later_emit rfl
    cases stream with
    | stderr => exact hl
    | stdout =>
      have hu := hl.quietly (later_updateChild _ i fun d =>
        { d with latch := (c.latch.observe text).1 })
      dsimp only
      split
      · exact hu.quietly (later_note _ rfl)
      · exact hu

theorem later_occur (o : Occurrence) : w.Later [] (w.occur o) := by
  cases o with
  | command c => exact w.later_sendCommand c
  | dropHandle => exact (Later.refl w).retouch rfl rfl rfl rfl rfl
  | exit i code => exact (w.later_emit rfl).quietly (later_publish _ i code)
  | ownExit i code => exact w.later_publish i code
  | unwatch i => exact w.later_updateChild i _
  | line i stream text => exact w.later_readLine i stream text
  | nothing => exact .refl w

theorem later_foldl_meet (ds : List Due) : w.Later [] (ds.foldl meet w) := by
  induction ds generalizing w with
  | nil => exact .refl w
  | cons d rest ih =>
    have hn : w.Later [] { w with now := max w.now d.time } :=
      (Later.refl w).retouch rfl rfl rfl rfl rfl
    exact (hn.quietly (later_occur _ d.what)).quietly (ih (w.meet d))

/-- Nothing that is due in the world is an act of the session. -/
theorem later_advanceTo (t : Nat) : w.Later [] (w.advanceTo t) := by
  have h₁ : w.Later [] { w with agenda := w.agenda.dropWhile fun d => d.time ≤ t } :=
    (Later.refl w).retouch rfl rfl rfl rfl rfl
  have h₂ := h₁.quietly (later_foldl_meet _ (w.agenda.takeWhile fun d => d.time ≤ t))
  exact h₂.retouch rfl rfl rfl rfl rfl

theorem later_awaitExit (i deadline : Nat) : w.Later [] (w.awaitExit i deadline).1 := by
  fun_induction World.awaitExit w i deadline with
  | case1 w => exact .refl w
  | case2 w => exact w.later_advanceTo _
  | case3 w _ d rest _ _ ih => exact (w.later_advanceTo _).quietly ih
  | case4 w => exact w.later_advanceTo _

theorem later_receive {r : Received} {w' : World} (h : w.receive = (w', r)) : w.Later [] w' := by
  unfold receive at h
  split at h
  · cases h
    exact (Later.refl w).retouch rfl rfl rfl rfl rfl
  · split at h <;> cases h <;> exact .refl w

theorem later_startCheck : w.Later [] w.startCheck.1 := by
  have h : w.Later [] (w.emit (.healthCall (w.checks + 1))) := w.later_emit rfl
  unfold startCheck
  dsimp only
  split <;> exact h.retouch rfl rfl rfl rfl rfl

theorem later_openWindow (url : String) : w.Later [.openWindow url] (w.openWindow url).1 := by
  have h : w.Later [.openWindow url] (w.emit (.openWindow url)) := w.later_act rfl rfl rfl
  unfold openWindow
  dsimp only
  split <;> exact h.retouch rfl rfl rfl rfl rfl

theorem later_showDialog (d : Dialog) : w.Later [.dialog d] (w.showDialog d).1 := by
  -- the dialog and the entry it uses up belong together, so this is no `later_act`
  have h (rest : List (Option String)) (hr : rest = w.panics.drop 1) :
      w.Later [.dialog d] { w.emit (.dialog d) with panics := rest } :=
    ⟨⟨[(w.now, .dialog d)], rfl, rfl⟩, rfl, rfl, rfl, fun _ _ => rfl, hr⟩
  unfold showDialog
  dsimp only [emit]
  split
  · next text rest hp => exact (h rest (by rw [hp]; rfl)).quietly (later_note _ rfl)
  · next rest hp => exact h rest (by rw [hp]; rfl)
  · next hp =>
    have := h w.panics (by rw [hp]; rfl)
    exact this

theorem later_signal (i : Nat) (s : TerminationSignal) :
    w.Later [.signal i s] (w.signal i s).1 := by
  have h : w.Later [.signal i s] (w.emit (.signal i s)) := w.later_act rfl rfl rfl
  unfold signal
  dsimp only
  split
  · exact h
  · exact h.quietly (later_publish _ _ _)
  · exact h.quietly (later_schedule _ _)

theorem child?_of_length_le {w : World} {i : Nat} (h : w.children.length ≤ i) :
    w.child? i = none := by
  rw [child?, List.getElem?_eq_none h]
  rfl

theorem lt_of_child? {w : World} {i : Nat} {c : Child} (h : w.child? i = some c) :
    i < w.children.length := by
  refine Nat.lt_of_not_le fun hi => ?_
  rw [child?_of_length_le hi] at h
  cases h

theorem child?_append_self (cs : List (Option Child)) (c : Option Child) :
    ((cs ++ [c])[cs.length]?).join = c := by
  simp

theorem later_spawn (l : Launch) :
    w.Later [.spawn w.children.length l] (w.spawn l).1 ∧
      (match (w.spawn l).2 with
        | .ok i => i = w.children.length ∧ ((w.spawn l).1.child? i).isSome = true
        | .error _ => (w.spawn l).1.child? w.children.length = none) := by
  have h (scripts : List ChildScript) (c : Option Child) :
      w.Later [.spawn w.children.length l]
        { w.emit (.spawn w.children.length l) with
          childScripts := scripts, children := w.children ++ [c] } := by
    refine ⟨⟨[(w.now, .spawn w.children.length l)], rfl, rfl⟩, rfl, rfl, ?_, ?_, rfl⟩
    · simp [Event.isSpawn]
    · intro i hi
      simp only [child?, List.getElem?_append_left hi]
  unfold spawn
  dsimp only
  split
  · exact ⟨h _ none, child?_append_self _ _⟩
  · exact ⟨(h _ (some _)).quietly (later_schedule _ _), rfl,
      congrArg Option.isSome (child?_append_self _ _)⟩

theorem later_attachReaders (i : Nat) (markers : List String) :
    w.Later [] (w.attachReaders i markers) := by
  unfold attachReaders
  split
  · exact .refl w
  · exact (w.later_updateChild i _).quietly (later_schedule _ _)

theorem visibleExit_of_published {i : Nat} {r : ExitReport} (h : w.publishedExit i = some r) :
    w.visibleExit i = some r := by
  obtain ⟨c, hc, hp⟩ := Option.bind_eq_some_iff.1 h
  refine Option.bind_eq_some_iff.2 ⟨c, hc, ?_⟩
  unfold Child.visibleExit
  rw [hp]

theorem awaitExit_of_visible {i : Nat} {r : ExitReport} (h : w.visibleExit i = some r)
    (deadline : Nat) : w.awaitExit i deadline = (w, some r) := by
  unfold awaitExit
  rw [h]

end World

theorem Poll.later_check (limits : ReadinessConfig) (w : World) (a : Attempts) :
    w.Later [] (Poll.check limits w a).1 := w.later_startCheck

theorem Poll.later_of_moved {limits : ReadinessConfig} {w w' : World} {p p' : Poll}
    (h : p.step limits w = .moved w' p') : w.Later [] w' := by
  obtain ⟨attempts, stage⟩ := p
  unfold Poll.step at h
  cases stage with
  | checking answer deadline =>
    dsimp only at h
    split at h
    · cases h
    · cases h
    · split at h
      · cases h
      · cases h
        exact w.later_note rfl
  | resting wake =>
    dsimp only at h
    split at h
    · cases h
      exact Poll.later_check limits w attempts
    · cases h

theorem Poll.later_of_done {limits : ReadinessConfig} {w w' : World} {p : Poll} {o : PollOutcome}
    (h : p.step limits w = .done w' o) : w.Later [] w' := by
  obtain ⟨attempts, stage⟩ := p
  unfold Poll.step at h
  cases stage with
  | checking answer deadline =>
    dsimp only at h
    split at h
    · cases h
    · cases h
      exact .refl w
    · split at h
      · cases h
        exact (w.later_note rfl).quietly (World.later_note _ rfl)
      · cases h
  | resting wake =>
    dsimp only at h
    split at h <;> cases h

namespace Race

theorem later_of_resolve {w w' : World} {r : Race} {signal signal' : ReadinessSignal}
    (h : resolve w r signal = .resolved w' signal') : w.Later [] w' := by
  unfold resolve at h
  split at h <;> cases h
  · exact .refl w
  · exact w.later_note rfl

theorem later_of_moved {limits : ReadinessConfig} {w w' : World} {r r' : Race}
    (h : r.step limits w = .moved w' r') : w.Later [] w' := by
  unfold step at h
  split at h
  · exact absurd h (resolve_ne_moved _ _ _ _ _)
  · split at h
    · exact absurd h (resolve_ne_moved _ _ _ _ _)
    · next hp =>
      cases h
      exact Poll.later_of_moved hp
    · split at h
      · exact absurd h (resolve_ne_moved _ _ _ _ _)
      · cases h

theorem later_of_resolved {limits : ReadinessConfig} {w w' : World} {r : Race}
    {signal : ReadinessSignal} (h : r.step limits w = .resolved w' signal) : w.Later [] w' := by
  unfold step at h
  split at h
  · exact later_of_resolve h
  · split at h
    · next hp => exact (Poll.later_of_done hp).quietly (later_of_resolve h)
    · cases h
    · split at h
      · exact later_of_resolve h
      · cases h

end Race
end DesktopHost
