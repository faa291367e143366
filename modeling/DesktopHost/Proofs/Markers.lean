import DesktopHost.Proofs.Hushing

/-!
The lines with a marker: what each act on a world does to those that are still to be read, to the
latches that wait for them, and to the reports that the first of them was read.
-/

set_option autoImplicit false

namespace DesktopHost

theorem Due.signals_of_not_line {d : Due} (h : d.isLine = false) (i : Nat) (markers : List String) :
    d.signals i markers = false := by
  obtain ⟨time, what⟩ := d
  cases what with
  | line j stream text => cases h
  | _ => rfl

/-- The first of a kind is the first one to come due. -/
theorem Due.Sorted.le_of_find? {agenda : List Due} (h : Sorted agenda) {q : Due → Bool} {d : Due}
    (hd : agenda.find? q = some d) : ∀ e ∈ agenda, q e = true → d.time ≤ e.time := by
  intro e he hq
  obtain ⟨-, before, after, rfl, hnone⟩ := List.find?_eq_some_iff_append.1 hd
  rcases List.mem_append.1 he with hin | hin
  · have := hnone e hin
    rw [hq] at this
    cases this
  · rcases List.mem_cons.1 hin with rfl | hin
    · exact Nat.le_refl _
    · exact (List.pairwise_cons.1 (List.pairwise_append.1 h).2.1).1 e hin

theorem Due.touch_pid (d : Due) (i : Nat) (c : Child) : (d.touch i c).pid = c.pid := by
  unfold Due.touch
  split
  · split
    · exact (c.publish_frame _).2.2
    · rfl
  · split
    · exact (c.publish_frame _).2.2
    · rfl
  · split <;> rfl
  · split <;> rfl
  · rfl

def Event.isReport : Event → Bool
  | .note (.startupReported _) => true
  | _ => false

theorem Event.not_isReport (e : Event) (h : e.isTalk = false) : e.isReport = false := by
  cases e with
  | note n => cases n <;> first | rfl | cases h
  | _ => rfl

namespace World

def latch? (w : World) (i : Nat) : Option Latch := (w.child? i).map (·.latch)

def pid? (w : World) (i : Nat) : Option (Option Nat) := (w.child? i).map (·.pid)

/-- At `t` a line with a marker is due on the standard output of child `i`. -/
def SignalAt (w : World) (i : Nat) (markers : List String) (t : Nat) : Prop :=
  ∃ d ∈ w.agenda, d.time = t ∧ d.signals i markers = true

def SignalBy (w : World) (i : Nat) (markers : List String) (t : Nat) : Prop :=
  ∃ s ≤ t, w.SignalAt i markers s

/-- The record of the first line with a marker of a child with that number. -/
def Reports (w : World) (t : Nat) (pid : Option Nat) : Prop :=
  (t, .note (.startupReported pid)) ∈ w.trace

variable {w v w' : World} {markers : List String}

theorem latchFired_eq (w : World) (i : Nat) : w.latchFired i = (w.latch? i).any (·.fired) := by
  unfold latchFired latch?
  cases w.child? i <;> rfl

theorem latch?_of_length_le {i : Nat} (h : w.children.length ≤ i) : w.latch? i = none := by
  rw [latch?, child?_of_length_le h]
  rfl

/-- From `w` to `w'` no child has said anything, and each will say what it would have said. -/
structure Mute (w w' : World) : Prop where
  children : w'.children.length = w.children.length
  latch : ∀ i, w'.latch? i = w.latch? i
  signals : ∀ i markers t, w'.SignalAt i markers t ↔ w.SignalAt i markers t
  sorted : Due.Sorted w.agenda → Due.Sorted w'.agenda
  childScripts : w'.childScripts = w.childScripts
  reports : ∀ t pid, w'.Reports t pid ↔ w.Reports t pid

namespace Mute

theorem of_eq (ha : w'.agenda = w.agenda) (hc : w'.children = w.children)
    (hs : w'.childScripts = w.childScripts) (ht : w'.trace = w.trace) : Mute w w' where
  children := by rw [hc]
  latch i := by rw [latch?, latch?, child?, child?, hc]
  signals i markers t := by rw [SignalAt, SignalAt, ha]
  sorted h := ha ▸ h
  childScripts := hs
  reports t pid := by rw [Reports, Reports, ht]

theorem trans {u : World} (h : Mute w v) (h' : Mute v u) : Mute w u where
  children := h'.children.trans h.children
  latch i := (h'.latch i).trans (h.latch i)
  signals i markers t := (h'.signals i markers t).trans (h.signals i markers t)
  sorted hs := h'.sorted (h.sorted hs)
  childScripts := h'.childScripts.trans h.childScripts
  reports t pid := (h'.reports t pid).trans (h.reports t pid)

end Mute

theorem reports_emit {e : Event} (h : e.isReport = false) (w : World) (t : Nat)
    (pid : Option Nat) : (w.emit e).Reports t pid ↔ w.Reports t pid := by
  unfold Reports
  rw [show (w.emit e).trace = (w.now, e) :: w.trace from rfl, List.mem_cons, or_iff_right]
  rintro heq
  cases heq
  cases h

theorem mute_emit (w : World) {e : Event} (h : e.isTalk = false) : Mute w (w.emit e) where
  children := rfl
  latch _ := rfl
  signals _ _ _ := Iff.rfl
  sorted := id
  childScripts := rfl
  reports := reports_emit (e.not_isReport h) w

theorem mute_updateChild (w : World) (i : Nat) {f : Child → Child}
    (h : ∀ c, (f c).latch = c.latch) : Mute w (w.updateChild i f) where
  children := List.length_modify ..
  latch j := by
    rw [latch?, child?_updateChild]
    split
    · rw [Option.map_map, latch?]
      exact congrArg (Option.map · _) (funext h)
    · rfl
  signals _ _ _ := Iff.rfl
  sorted := id
  childScripts := rfl
  reports _ _ := Iff.rfl

theorem mem_agenda_schedule (w : World) (ds : List Due) (d : Due) :
    d ∈ (w.schedule ds).agenda ↔ d ∈ ds ∨ d ∈ w.agenda := by
  rw [show (w.schedule ds).agenda = Due.insertAll ds w.agenda from rfl,
    (Due.insertAll_perm ds w.agenda).mem_iff, List.mem_append]

theorem mute_schedule (w : World) {ds : List Due} (h : ∀ d ∈ ds, d.isLine = false) :
    Mute w (w.schedule ds) where
  children := rfl
  latch _ := rfl
  signals i markers t := by
    unfold SignalAt
    simp only [mem_agenda_schedule]
    refine ⟨?_, fun ⟨d, hd, hrest⟩ => ⟨d, .inr hd, hrest⟩⟩
    rintro ⟨d, hd | hd, ht, hs⟩
    · rw [Due.signals_of_not_line (h d hd)] at hs
      cases hs
    · exact ⟨d, hd, ht, hs⟩
  sorted hs := hs.insertAll ds
  childScripts := rfl
  reports _ _ := Iff.rfl

theorem mute_receive (w : World) : Mute w w.receive.1 := by
  unfold receive
  split
  · exact .of_eq rfl rfl rfl rfl
  · split <;> exact .of_eq rfl rfl rfl rfl

theorem mute_startCheck (w : World) : Mute w w.startCheck.1 := by
  have hcall := w.mute_emit (e := .healthCall (w.checks + 1)) rfl
  unfold startCheck
  dsimp only
  split <;> exact hcall.trans (.of_eq rfl rfl rfl rfl)

theorem mute_openWindow (w : World) (url : String) : Mute w (w.openWindow url).1 := by
  have hcall := w.mute_emit (e := .openWindow url) rfl
  unfold openWindow
  dsimp only
  split <;> exact hcall.trans (.of_eq rfl rfl rfl rfl)

theorem mute_showDialog (w : World) (d : Dialog) : Mute w (w.showDialog d).1 := by
  have hcall := w.mute_emit (e := .dialog d) rfl
  have hused (rest : List (Option String)) :
      Mute w { w.emit (.dialog d) with panics := rest } := hcall.trans (.of_eq rfl rfl rfl rfl)
  unfold showDialog
  dsimp only
  split
  · exact (hused _).trans (mute_emit _ rfl)
  · exact hused _
  · exact hcall

theorem mute_signal (w : World) (i : Nat) (s : TerminationSignal) : Mute w (w.signal i s).1 := by
  have hcall := w.mute_emit (e := .signal i s) rfl
  unfold signal
  dsimp only
  split
  · exact hcall
  · exact hcall.trans (mute_updateChild _ i fun c => c.publish_latch _)
  · refine hcall.trans (mute_schedule _ fun d hd => ?_)
    rw [List.mem_singleton.1 hd]
    rfl

/-- From `w` to `w'` one more child is there, with this latch, that will write these lines. -/
structure Births (w w' : World) (latch : Option Latch) (said : List (Nat × String)) : Prop where
  children : w'.children.length = w.children.length + 1
  latch : ∀ i, w'.latch? i = if i = w.children.length then latch else w.latch? i
  signals : ∀ i markers t, w'.SignalAt i markers t ↔ w.SignalAt i markers t ∨
    i = w.children.length ∧ ∃ l ∈ said, w.now + l.1 = t ∧ lineSignalsReady markers l.2 = true
  sorted : Due.Sorted w.agenda → Due.Sorted w'.agenda
  childScripts : w'.childScripts = (nextOf .inert w.childScripts).2
  reports : ∀ t pid, w'.Reports t pid ↔ w.Reports t pid

theorem Births.mute {latch : Option Latch} {said : List (Nat × String)}
    (h : Births w w' latch said) {u : World} (h' : Mute w' u) : Births w u latch said where
  children := h'.children.trans h.children
  latch i := (h'.latch i).trans (h.latch i)
  signals i markers t := (h'.signals i markers t).trans (h.signals i markers t)
  sorted hs := h'.sorted (h.sorted hs)
  childScripts := h'.childScripts.trans h.childScripts
  reports t pid := (h'.reports t pid).trans (h.reports t pid)

theorem Births.signalBy {latch : Option Latch} {said : List (Nat × String)}
    (h : Births w w' latch said) (i : Nat) (markers : List String) (t : Nat) :
    w'.SignalBy i markers t ↔ w.SignalBy i markers t ∨ i = w.children.length ∧
      ∃ l ∈ said, w.now + l.1 ≤ t ∧ lineSignalsReady markers l.2 = true := by
  simp only [SignalBy, h.signals]
  constructor
  · rintro ⟨s, hst, hs | ⟨hi, l, hl, rfl, hm⟩⟩
    · exact .inl ⟨s, hst, hs⟩
    · exact .inr ⟨hi, l, hl, hst, hm⟩
  · rintro (⟨s, hst, hs⟩ | ⟨hi, l, hl, hst, hm⟩)
    · exact ⟨s, hst, .inl hs⟩
    · exact ⟨_, hst, .inr ⟨hi, l, hl, rfl, hm⟩⟩

theorem births_bear (w : World) (l : Launch) (c : Option Child) :
    Births w (w.bear l c) (c.map (·.latch)) [] where
  children := by simp [bear]
  latch i := by
    unfold latch? child? bear
    dsimp only
    rw [List.getElem?_append]
    split
    · next h => rw [if_neg (Nat.ne_of_lt h)]
    · next h =>
      split
      · next heq => simp [heq]
      · next hne =>
        rw [List.getElem?_eq_none (by simp; omega), List.getElem?_eq_none (Nat.le_of_not_lt h)]
  signals i markers t := by
    refine (or_iff_left ?_).symm
    rintro ⟨-, l, hl, -⟩
    cases hl
  sorted := id
  childScripts := rfl
  reports := reports_emit rfl w

/-- A reader is attached to each pipe of the child that was born last. -/
theorem Births.attachReaders {c : Child} (h : Births w w' (some c.latch) [])
    (hc : w'.child? w.children.length = some c) (hnow : w'.now = w.now) (markers : List String) :
    Births w (w'.attachReaders w.children.length markers) (some (.new markers))
      (Output.timeline (c.script.stdout.getD [])) := by
  rw [attachReaders_eq hc, hnow]
  refine ⟨?_, fun i => ?_, fun i ms t => ?_, fun hs => (h.sorted hs).insertAll _, h.childScripts,
    h.reports⟩
  · exact (List.length_modify ..).trans h.children
  · change ((w'.updateChild _ _).child? i).map _ = _
    rw [child?_updateChild]
    split
    · next heq =>
      subst heq
      rw [hc, if_pos rfl]
      rfl
    · next hne =>
      have := h.latch i
      rwa [if_neg (Ne.symm hne)] at this ⊢
  · have hold := h.signals i ms t
    simp only [List.not_mem_nil, false_and, exists_false, and_false, or_false] at hold
    rw [← hold]
    unfold SignalAt
    simp only [mem_agenda_schedule, List.mem_append]
    constructor
    · rintro ⟨d, (hd | hd) | hd, ht, hs⟩
      · obtain ⟨l, hl, rfl⟩ := List.mem_map.1 hd
        simp only [Due.signals, Bool.and_eq_true, decide_eq_true_eq] at hs
        exact .inr ⟨hs.1.symm, l, hl, ht, hs.2⟩
      · obtain ⟨l, -, rfl⟩ := List.mem_map.1 hd
        cases hs
      · exact .inl ⟨d, hd, ht, hs⟩
    · rintro (⟨d, hd, hrest⟩ | ⟨rfl, l, hl, ht, hs⟩)
      · exact ⟨d, .inr hd, hrest⟩
      · exact ⟨_, .inl (.inl (List.mem_map_of_mem hl)), ht, by simp [Due.signals, hs]⟩

theorem newborn_script (script : ChildScript) : script.newborn.script = script := by
  unfold ChildScript.newborn
  dsimp only
  split <;> split <;> first | exact (Child.publish_frame _ _).2.1 | rfl

/-- What a spawn has to do with output: nothing, or a child is born, with a voice or without. -/
theorem births_spawnBackend (w : World) (l : Launch) (markers : List String) :
    if w.files.has w.cwd l.program then
      Births w (w.spawnBackend l markers).1
        (if w.nextScript.spawnFailure.isSome then none else some (.new markers))
        (if w.nextScript.spawnFailure.isSome then [] else
          Output.timeline (w.nextScript.stdout.getD []))
    else Mute w (w.spawnBackend l markers).1 := by
  unfold spawnBackend
  split
  · rw [spawn_eq]
    cases w.nextScript.spawnFailure with
    | some f => exact (w.births_bear l none).mute (mute_emit _ rfl)
    | none =>
      let u := (w.bear l (some w.nextScript.newborn)).schedule
        (w.nextScript.plans w.now w.children.length)
      have hborn : Births w u (some w.nextScript.newborn.latch) [] :=
        (w.births_bear l _).mute (mute_schedule _ ChildScript.not_isLine_of_plans)
      have hchild : u.child? w.children.length = some w.nextScript.newborn :=
        child?_append_self _ _
      have h := hborn.attachReaders hchild rfl markers
      rw [newborn_script] at h
      exact h
  · exact mute_emit _ rfl

theorem any_upTo (sorted : Due.Sorted w.agenda) (i : Nat) (markers : List String) (t : Nat) :
    (Due.upTo t w.agenda).any (·.signals i markers) = true ↔ w.SignalBy i markers t := by
  rw [List.any_eq_true]
  constructor
  · rintro ⟨d, hd, hs⟩
    exact ⟨d.time, Due.time_of_mem_upTo hd, d, List.takeWhile_subset _ hd, rfl, hs⟩
  · rintro ⟨s, hst, d, hd, rfl, hs⟩
    exact ⟨d, sorted.mem_upTo hd hst, hs⟩

theorem latch?_advanceTo (w : World) (i t : Nat) : (w.advanceTo t).latch? i =
    (w.latch? i).map fun l =>
      ⟨l.markers, l.fired || (Due.upTo t w.agenda).any (·.signals i l.markers)⟩ := by
  unfold latch?
  rw [child?_advanceTo, Option.map_map, Option.map_map]
  refine congrArg (Option.map · _) (funext fun c => ?_)
  obtain ⟨hm, hf⟩ := c.foldl_touch_latch i (Due.upTo t w.agenda)
  exact (Latch.mk.injEq ..).mpr ⟨hm, hf⟩

theorem signalAt_advanceTo (sorted : Due.Sorted w.agenda) (i : Nat) (markers : List String)
    (t s : Nat) : (w.advanceTo t).SignalAt i markers s ↔ t < s ∧ w.SignalAt i markers s := by
  unfold SignalAt
  rw [advanceTo_agenda]
  constructor
  · rintro ⟨d, hd, rfl, hs⟩
    exact ⟨sorted.lt_of_mem_beyond hd, d, List.dropWhile_subset _ hd, rfl, hs⟩
  · rintro ⟨hts, d, hd, rfl, hs⟩
    exact ⟨d, Due.mem_beyond hd hts, rfl, hs⟩

theorem reports_readLine (w : World) (i : Nat) (text : String) (t : Nat) (pid : Option Nat) :
    (w.readLine i .stdout text).Reports t pid ↔ w.Reports t pid ∨ ∃ c, w.child? i = some c ∧
      c.pid = pid ∧ c.latch.fired = false ∧ lineSignalsReady c.latch.markers text = true ∧
      w.now = t := by
  unfold readLine
  cases hc : w.child? i with
  | none => simp
  | some c =>
    have hline : (w.emit (.line c.pid .stdout text)).Reports t pid ↔ w.Reports t pid :=
      reports_emit rfl w t pid
    have hhit : (c.latch.observe text).2 =
        (!c.latch.fired && lineSignalsReady c.latch.markers text) := by
      unfold Latch.observe
      split
      · next h => exact h.symm
      · next h => exact (Bool.eq_false_iff.2 h).symm
    simp only [Option.some.injEq, exists_eq_left']
    split
    · next h =>
      rw [hhit, Bool.and_eq_true, Bool.not_eq_true'] at h
      rw [← hline]
      unfold Reports
      change (t, _) ∈ (w.now, _) :: _ ↔ _
      rw [List.mem_cons, or_comm, Prod.mk.injEq, Event.note.injEq, Note.startupReported.injEq]
      refine or_congr Iff.rfl ⟨?_, ?_⟩
      · rintro ⟨rfl, rfl⟩
        exact ⟨rfl, h.1, h.2, rfl⟩
      · rintro ⟨rfl, -, -, rfl⟩
        exact ⟨rfl, rfl⟩
    · next h =>
      refine hline.trans (or_iff_left ?_).symm
      rintro ⟨-, hf, hs, -⟩
      rw [hhit, hf, hs] at h
      exact h rfl

theorem reports_meet (w : World) (d : Due) (t : Nat) (pid : Option Nat) :
    (w.meet d).Reports t pid ↔ w.Reports t pid ∨ ∃ i c, w.child? i = some c ∧ c.pid = pid ∧
      c.latch.fired = false ∧ d.signals i c.latch.markers = true ∧ max w.now d.time = t := by
  have hsilent (hm : (w.meet d).Reports t pid ↔ w.Reports t pid)
      (hd : ∀ i ms, d.signals i ms = false) : (w.meet d).Reports t pid ↔ w.Reports t pid ∨
        ∃ i c, w.child? i = some c ∧ c.pid = pid ∧ c.latch.fired = false ∧
          d.signals i c.latch.markers = true ∧ max w.now d.time = t := by
    rw [hm, or_iff_left]
    rintro ⟨i, c, -, -, -, hs, -⟩
    rw [hd] at hs
    cases hs
  obtain ⟨time, what⟩ := d
  let u := w.withClock (max w.now time)
  cases what with
  | line i stream text =>
    cases stream with
    | stderr =>
      refine hsilent ?_ fun _ _ => rfl
      simp only [meet, occur, readLine]
      split
      · rfl
      · exact reports_emit rfl u t pid
    | stdout =>
      refine (u.reports_readLine i text t pid).trans (or_congr Iff.rfl ?_)
      constructor
      · rintro ⟨c, hc, hp, hf, hs, ht⟩
        exact ⟨i, c, hc, hp, hf, by simp [Due.signals, hs], ht⟩
      · rintro ⟨j, c, hc, hp, hf, hs, ht⟩
        simp only [Due.signals, Bool.and_eq_true, decide_eq_true_eq] at hs
        obtain ⟨rfl, hs⟩ := hs
        exact ⟨c, hc, hp, hf, hs, ht⟩
  | command c =>
    refine hsilent ?_ fun _ _ => rfl
    simp only [meet, occur, sendCommand]
    split
    · split <;> exact reports_emit rfl u t pid
    · exact reports_emit rfl u t pid
  | exit i code => exact hsilent (reports_emit rfl u t pid) fun _ _ => rfl
  | _ => exact hsilent Iff.rfl fun _ _ => rfl

/-- The reports that come while time passes: one for each child whose latch had not fired, at the
first line with a marker. -/
theorem reports_foldl_meet {ds : List Due} (sorted : Due.Sorted ds) (w : World) (t : Nat)
    (pid : Option Nat) : (ds.foldl meet w).Reports t pid ↔ w.Reports t pid ∨
      ∃ i c d, w.child? i = some c ∧ c.pid = pid ∧ c.latch.fired = false ∧
        ds.find? (·.signals i c.latch.markers) = some d ∧ max w.now d.time = t := by
  induction ds generalizing w with
  | nil => simp
  | cons e rest ih =>
    obtain ⟨hfirst, hrest⟩ := List.pairwise_cons.1 sorted
    rw [List.foldl_cons, ih hrest (w.meet e), reports_meet, or_assoc]
    refine or_congr Iff.rfl ?_
    have hpid (i : Nat) (c : Child) : (e.touch i c).pid = c.pid := e.touch_pid i c
    have hclock {d : Due} (hd : d ∈ rest) : max (w.meet e).now d.time = max w.now d.time := by
      have := hfirst d hd
      rw [meet_now]
      omega
    -- a latch that had not fired fires at `e`, or has not fired then either
    constructor
    · rintro (⟨i, c, hc, hp, hf, hs, ht⟩ | ⟨i, c, d, hc, hp, hf, hd, ht⟩)
      · exact ⟨i, c, e, hc, hp, hf, by rw [List.find?_cons, hs], ht⟩
      · rw [child?_meet] at hc
        obtain ⟨c, hold, rfl⟩ := Option.map_eq_some_iff.1 hc
        obtain ⟨hm, hfired⟩ := c.touch_latch i e
        rw [hfired, Bool.or_eq_false_iff] at hf
        rw [hm] at hd
        refine ⟨i, c, d, hold, by rw [← hp, hpid], hf.1, by rw [List.find?_cons, hf.2]; exact hd, ?_⟩
        rw [← ht, hclock (List.mem_of_find?_eq_some hd)]
    · rintro ⟨i, c, d, hc, hp, hf, hd, ht⟩
      obtain ⟨hm, hfired⟩ := c.touch_latch i e
      cases hs : e.signals i c.latch.markers with
      | true =>
        rw [List.find?_cons, hs] at hd
        cases hd
        exact .inl ⟨i, c, hc, hp, hf, hs, ht⟩
      | false =>
        rw [List.find?_cons, hs] at hd
        refine .inr ⟨i, e.touch i c, d, by rw [child?_meet, hc]; rfl, by rw [hpid, hp], ?_, ?_, ?_⟩
        · rw [hfired, hf, hs]
          rfl
        · rw [hm]
          exact hd
        · rw [← ht, hclock (List.mem_of_find?_eq_some hd)]

theorem signalBy_advanceTo (sorted : Due.Sorted w.agenda) {i t : Nat}
    (h : ¬w.SignalBy i markers t) (s : Nat) :
    (w.advanceTo t).SignalBy i markers s ↔ w.SignalBy i markers s := by
  simp only [SignalBy, signalAt_advanceTo sorted]
  constructor
  · rintro ⟨x, hx, -, hs⟩
    exact ⟨x, hx, hs⟩
  · rintro ⟨x, hx, hs⟩
    exact ⟨x, hx, Nat.lt_of_not_le fun hle => h ⟨x, hle, hs⟩, hs⟩

/-- When the reports come, as far as time passes. -/
theorem reports_advanceTo (sorted : Due.Sorted w.agenda) (t s : Nat) (pid : Option Nat) :
    (w.advanceTo t).Reports s pid ↔ w.Reports s pid ∨
      ∃ i l, w.latch? i = some l ∧ w.pid? i = some pid ∧ l.fired = false ∧
        ∃ a ≤ t, max w.now a = s ∧ w.SignalBy i l.markers a ∧
          ∀ b < a, ¬w.SignalBy i l.markers b := by
  have hsorted : Due.Sorted (Due.upTo t w.agenda) := sorted.sublist (List.takeWhile_sublist _)
  have hmet := reports_foldl_meet hsorted (w.withAgenda (Due.beyond t w.agenda)) s pid
  refine hmet.trans (or_congr Iff.rfl (exists_congr fun i => ?_))
  constructor
  · rintro ⟨c, d, hc, hp, hf, hd, ht⟩
    have hmem : d ∈ Due.upTo t w.agenda := List.mem_of_find?_eq_some hd
    have hle := Due.time_of_mem_upTo hmem
    refine ⟨c.latch, congrArg (Option.map _) hc, (congrArg (Option.map _) hc).trans (by rw [← hp]; rfl),
      hf, d.time, hle, ht,
      ⟨d.time, Nat.le_refl _, d, List.takeWhile_subset _ hmem, rfl, List.find?_some hd⟩, ?_⟩
    rintro b hb ⟨x, hx, e, he, rfl, hs⟩
    have := hsorted.le_of_find? hd e (sorted.mem_upTo he (by omega)) hs
    omega
  · rintro ⟨l, hl, hp, hf, a, hat, ht, ⟨x, hx, e, he, rfl, hs⟩, hfirst⟩
    obtain ⟨c, hc, rfl⟩ := Option.map_eq_some_iff.1 hl
    rw [pid?, hc] at hp
    have hein := sorted.mem_upTo he (Nat.le_trans hx hat)
    cases hd : (Due.upTo t w.agenda).find? (·.signals i c.latch.markers) with
    | none => exact absurd hs (List.find?_eq_none.1 hd e hein)
    | some d =>
      have hmem : d ∈ Due.upTo t w.agenda := List.mem_of_find?_eq_some hd
      have hle := hsorted.le_of_find? hd e hein hs
      have hge : ¬d.time < a := fun hlt => hfirst d.time hlt
        ⟨d.time, Nat.le_refl _, d, List.takeWhile_subset _ hmem, rfl, List.find?_some hd⟩
      have htime : d.time = a := by omega
      exact ⟨c, d, hc, Option.some.inj hp, hf, hd, by rw [htime]; exact ht⟩

end World
end DesktopHost
