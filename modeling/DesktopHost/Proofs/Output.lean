import DesktopHost.Proofs.Lockstep
import DesktopHost.Proofs.Markers
import DesktopHost.Proofs.Restart

/-!
What the output of the children can do to a session: only the first line with a marker counts, by
the instant at which it is read, and only during the startup of the child it comes from.
-/

set_option autoImplicit false

namespace DesktopHost

/-- Scripts that differ in nothing but the streams, and whose standard outputs have their first
lines with a marker at the same time, if at all. -/
structure ChildScript.Resembles (markers : List String) (c d : ChildScript) : Prop where
  rest : d = { c with stdout := d.stdout, stderr := d.stderr }
  marker : Output.firstMarker? markers (c.stdout.getD []) =
    Output.firstMarker? markers (d.stdout.getD [])

theorem ChildScript.Resembles.refl (markers : List String) (c : ChildScript) :
    c.Resembles markers c := ⟨rfl, rfl⟩

theorem ChildScript.Resembles.spawnFailure_eq {markers : List String} {c d : ChildScript}
    (h : c.Resembles markers d) : d.spawnFailure = c.spawnFailure := by
  rw [h.rest]

theorem ChildScript.Resembles.signalled {markers : List String} {c d : ChildScript}
    (h : c.Resembles markers d) (start t : Nat) :
    (∃ l ∈ Output.timeline (c.stdout.getD []),
        start + l.1 ≤ t ∧ lineSignalsReady markers l.2 = true) ↔
      ∃ l ∈ Output.timeline (d.stdout.getD []),
        start + l.1 ≤ t ∧ lineSignalsReady markers l.2 = true := by
  rcases Nat.lt_or_ge t start with ht | ht
  · constructor <;>
    · rintro ⟨l, -, hl, -⟩
      omega
  · have hle (x : Nat) : start + x ≤ t ↔ x ≤ t - start := by omega
    simp only [hle]
    rw [Output.firstMarker?_spec, Output.firstMarker?_spec, h.marker]

theorem ChildScript.Resembles.hushed {markers : List String} {c d : ChildScript}
    (h : c.Resembles markers d) : c.hushed = d.hushed := by
  rw [h.rest]
  rfl

namespace World

variable {w v w' v' : World} {markers : List String} {heard : Nat → Prop}

/-- Apart from their output the worlds are the same; and the children that are heard have said the
first line with a marker, or will say it, at the same time. -/
structure Resembles (markers : List String) (heard : Nat → Prop) (w v : World) : Prop where
  hushed : w.hushed = v.hushed
  sorted : Due.Sorted w.agenda
  sorted' : Due.Sorted v.agenda
  scripts : List.Forall₂ (ChildScript.Resembles markers) w.childScripts v.childScripts
  latch : ∀ i, heard i → w.latch? i = v.latch? i
  /-- What a latch waits for comes at the same time, or never. -/
  ahead : ∀ i l, heard i → w.latch? i = some l → l.fired = false →
    ∀ t, w.SignalBy i l.markers t ↔ v.SignalBy i l.markers t
  /-- Children to come are heard, and nothing is there already that sets them apart. -/
  unborn : ∀ i, w.children.length ≤ i →
    heard i ∧ ∀ t, w.SignalAt i markers t ↔ v.SignalAt i markers t
  reports : (∀ i, heard i) → ∀ t pid, w.Reports t pid ↔ v.Reports t pid

namespace Resembles

variable (h : Resembles markers heard w v)
include h

theorem length_eq : w.children.length = v.children.length := by
  have := congrArg (fun u : World => u.children.length) h.hushed
  simpa [World.hushed] using this

theorem now_eq : w.now = v.now :=
  show w.hushed.now = v.hushed.now by rw [h.hushed]

theorem pid?_eq (i : Nat) : w.pid? i = v.pid? i := by
  have hmap (u : World) : u.hushed.pid? i = u.pid? i := by
    rw [pid?, hushed_child?, Option.map_map]
    rfl
  rw [← hmap w, ← hmap v, h.hushed]

theorem mute (hw : Mute w w') (hv : Mute v v') (hushed : w'.hushed = v'.hushed) :
    Resembles markers heard w' v' where
  hushed := hushed
  sorted := hw.sorted h.sorted
  sorted' := hv.sorted h.sorted'
  scripts := by
    rw [hw.childScripts, hv.childScripts]
    exact h.scripts
  latch i hi := by rw [hw.latch, hv.latch, h.latch i hi]
  ahead i l hi hl hf t := by
    rw [hw.latch] at hl
    unfold SignalBy
    simp only [hw.signals, hv.signals]
    exact h.ahead i l hi hl hf t
  unborn i hi := by
    rw [hw.children] at hi
    simp only [hw.signals, hv.signals]
    exact h.unborn i hi
  reports hall t pid := by
    rw [hw.reports, hv.reports]
    exact h.reports hall t pid

/-- The same answer, from what does not concern the output. -/
theorem same {α : Type} {x y : World × α} (hx : Mute w x.1) (hy : Mute v y.1)
    (hush : hush x = hush y) : Same (Resembles markers heard) x y := by
  obtain ⟨w', a⟩ := x
  obtain ⟨v', b⟩ := y
  obtain rfl : a = b := congrArg Prod.snd hush
  exact .mk a (h.mute hx hy (congrArg Prod.fst hush))

theorem nextScript : w.nextScript.Resembles markers v.nextScript ∧
    List.Forall₂ (ChildScript.Resembles markers) (nextOf .inert w.childScripts).2
      (nextOf .inert v.childScripts).2 := by
  have hscripts := h.scripts
  unfold World.nextScript
  generalize w.childScripts = cs at hscripts
  generalize v.childScripts = ds at hscripts
  cases hscripts with
  | nil => exact ⟨.refl markers .inert, .nil⟩
  | cons hc hrest =>
    cases hrest with
    | nil => exact ⟨hc, .cons hc .nil⟩
    | cons hd hrest => exact ⟨hc, .cons hd hrest⟩

theorem signalBy_unborn {i : Nat} (hi : w.children.length ≤ i) (t : Nat) :
    w.SignalBy i markers t ↔ v.SignalBy i markers t := by
  simp only [SignalBy, (h.unborn i hi).2]

theorem births {latch : Option Latch} {said said' : List (Nat × String)}
    (hw : Births w w' latch said) (hv : Births v v' latch said')
    (attached : ∀ l, latch = some l → l.markers = markers)
    (alike : ∀ t, (∃ l ∈ said, w.now + l.1 ≤ t ∧ lineSignalsReady markers l.2 = true) ↔
      ∃ l ∈ said', w.now + l.1 ≤ t ∧ lineSignalsReady markers l.2 = true)
    (hushed : w'.hushed = v'.hushed) : Resembles markers heard w' v' where
  hushed := hushed
  sorted := hw.sorted h.sorted
  sorted' := hv.sorted h.sorted'
  scripts := by
    rw [hw.childScripts, hv.childScripts]
    exact h.nextScript.2
  latch i hi := by
    rw [hw.latch, hv.latch, h.length_eq]
    split
    · rfl
    · exact h.latch i hi
  ahead i l hi hl hf t := by
    rw [hw.latch] at hl
    rw [hw.signalBy, hv.signalBy, ← h.length_eq, ← h.now_eq]
    split at hl
    · next heq =>
      rw [attached l hl, alike t, h.signalBy_unborn (Nat.le_of_eq heq.symm)]
    · next hne =>
      simp only [hne, false_and, or_false]
      exact h.ahead i l hi hl hf t
  unborn i hi := by
    rw [hw.children] at hi
    have hne : i ≠ w.children.length := by omega
    have hne' : i ≠ v.children.length := h.length_eq ▸ hne
    simp only [hw.signals, hv.signals, hne, hne', false_and, or_false]
    exact h.unborn i (by omega)
  reports hall t pid := by
    rw [hw.reports, hv.reports]
    exact h.reports hall t pid

theorem spawnBackend (l : Launch) :
    Resembles markers heard (w.spawnBackend l markers).1 (v.spawnBackend l markers).1 ∧
      (w.spawnBackend l markers).2 = (v.spawnBackend l markers).2 := by
  obtain ⟨hworld, hanswer⟩ := hushed_spawnBackend w h.sorted l markers
  obtain ⟨hworld', hanswer'⟩ := hushed_spawnBackend v h.sorted' l markers
  have hushed : (w.spawnBackend l markers).1.hushed = (v.spawnBackend l markers).1.hushed := by
    rw [hworld, hworld', h.hushed]
  refine ⟨?_, by rw [hanswer, hanswer', h.hushed]⟩
  obtain ⟨hscript, -⟩ := h.nextScript
  have hfiles : v.files.has v.cwd l.program = w.files.has w.cwd l.program :=
    show v.hushed.files.has v.hushed.cwd l.program = w.hushed.files.has w.hushed.cwd l.program by
      rw [h.hushed]
  have hw := w.births_spawnBackend l markers
  have hv := v.births_spawnBackend l markers
  rw [hfiles, hscript.spawnFailure_eq] at hv
  split at hw
  · next hhas =>
    rw [if_pos hhas] at hv
    cases hf : w.nextScript.spawnFailure with
    | some f =>
      rw [hf] at hw hv
      exact h.births hw hv nofun (fun _ => Iff.rfl) hushed
    | none =>
      rw [hf] at hw hv
      exact h.births hw hv (fun l hl => by cases hl; rfl) (hscript.signalled w.now) hushed
  · next hhas =>
    rw [if_neg hhas] at hv
    exact h.mute hw hv hushed

theorem advanceTo (t : Nat) : Resembles markers heard (w.advanceTo t) (v.advanceTo t) where
  hushed := by rw [hushed_advanceTo _ h.sorted, hushed_advanceTo _ h.sorted', h.hushed]
  sorted := by
    rw [advanceTo_agenda]
    exact h.sorted.beyond t
  sorted' := by
    rw [advanceTo_agenda]
    exact h.sorted'.beyond t
  scripts := by
    rw [childScripts_advanceTo, childScripts_advanceTo]
    exact h.scripts
  latch i hi := by
    rw [latch?_advanceTo, latch?_advanceTo, ← h.latch i hi]
    cases hl : w.latch? i with
    | none => rfl
    | some l =>
      cases hf : l.fired with
      | true => simp [hf]
      | false =>
        have hany : (Due.upTo t w.agenda).any (·.signals i l.markers) =
            (Due.upTo t v.agenda).any (·.signals i l.markers) := by
          rw [Bool.eq_iff_iff, any_upTo h.sorted, any_upTo h.sorted']
          exact h.ahead i l hi hl hf t
        rw [Option.map_some, Option.map_some, hany]
  ahead i l hi hl hf s := by
    rw [latch?_advanceTo] at hl
    obtain ⟨l, hold, rfl⟩ := Option.map_eq_some_iff.1 hl
    obtain ⟨hunfired, hnone⟩ := Bool.or_eq_false_iff.1 hf
    have hsame := h.ahead i l hi hold hunfired
    have hquiet : ¬w.SignalBy i l.markers t := by
      rw [← any_upTo h.sorted, hnone]
      exact Bool.false_ne_true
    rw [signalBy_advanceTo h.sorted hquiet,
      signalBy_advanceTo h.sorted' fun hv => hquiet ((hsame t).2 hv)]
    exact hsame s
  unborn i hi := by
    rw [(w.later_advanceTo t).spawned] at hi
    obtain ⟨hheard, hsame⟩ := h.unborn i hi
    refine ⟨hheard, fun s => ?_⟩
    rw [signalAt_advanceTo h.sorted, signalAt_advanceTo h.sorted', hsame]
  reports hall s pid := by
    rw [reports_advanceTo h.sorted, reports_advanceTo h.sorted', h.reports hall]
    refine or_congr Iff.rfl (exists_congr fun i => exists_congr fun l => ?_)
    rw [h.latch i (hall i), h.pid?_eq, h.now_eq]
    refine and_congr_right fun hl => and_congr_right fun _ => and_congr_right fun hf => ?_
    have hsame := h.ahead i l (hall i) ((h.latch i (hall i)).trans hl) hf
    simp only [hsame]

theorem emit (e : Event) : Resembles markers heard (w.emit e) (v.emit e) where
  hushed := by
    cases he : e.isTalk with
    | true => rw [hushed_emit_talk _ he, hushed_emit_talk _ he, h.hushed]
    | false => rw [hushed_emit _ he, hushed_emit _ he, h.hushed]
  sorted := h.sorted
  sorted' := h.sorted'
  scripts := h.scripts
  latch := h.latch
  ahead := h.ahead
  unborn := h.unborn
  reports hall t pid := by
    have hadd (u : World) : (u.emit e).Reports t pid ↔
        (t, .note (.startupReported pid)) = (u.now, e) ∨ u.Reports t pid := List.mem_cons
    rw [hadd, hadd, h.now_eq, h.reports hall]

theorem signal (i : Nat) (s : TerminationSignal) :
    Same (Resembles markers heard) (w.signal i s) (v.signal i s) :=
  h.same (w.mute_signal i s) (v.mute_signal i s)
    (by rw [hush_signal _ h.sorted, hush_signal _ h.sorted', h.hushed])

theorem visibleExit (i : Nat) : w.visibleExit i = v.visibleExit i := by
  rw [← hushed_visibleExit, h.hushed, hushed_visibleExit]

theorem publishedExit (i : Nat) : w.publishedExit i = v.publishedExit i := by
  rw [← hushed_publishedExit, h.hushed, hushed_publishedExit]

theorem latchFired {i : Nat} (hi : heard i) : w.latchFired i = v.latchFired i := by
  rw [latchFired_eq, latchFired_eq, h.latch i hi]

omit h

/-- A session that heeds the output of no child but those that are heard does not tell such worlds
apart. -/
theorem mirrors (markers : List String) (heard : Nat → Prop) :
    Mirrors .none markers heard (Resembles markers heard) where
  now h := h.now_eq
  visibleExit h := h.visibleExit
  publishedExit h := h.publishedExit
  latchFired h _ := h.latchFired
  emit h e := by
    rw [e.after_none]
    exact h.emit e
  receive h := h.same (mute_receive _) (mute_receive _) (by rw [hush_receive, hush_receive, h.hushed])
  startCheck {w v} h := by
    have hush : hush w.startCheck = hush v.startCheck := by
      rw [hush_startCheck, hush_startCheck, h.hushed]
    exact ⟨h.mute (mute_startCheck _) (mute_startCheck _) (congrArg Prod.fst hush),
      (congrArg Prod.snd hush).trans Option.map_id'.symm⟩
  openWindow h url := h.same (mute_openWindow _ url) (mute_openWindow _ url)
    (by rw [hush_openWindow, hush_openWindow, h.hushed])
  showDialog h d := h.same (mute_showDialog _ d) (mute_showDialog _ d)
    (by rw [hush_showDialog, hush_showDialog, h.hushed])
  spawnBackend {w v} h l := by
    obtain ⟨hworld, hresult⟩ := h.spawnBackend l
    refine ⟨hworld, hresult.trans ?_⟩
    generalize (v.spawnBackend l markers).2 = x
    cases x <;> rfl
  hears {w v} h l b hb := by
    have hchild := (spawnBackend_ok (Prod.ext rfl hb)).1
    rw [hchild]
    exact (h.unborn _ (Nat.le_of_eq h.length_eq)).1
  deafen {w v} h := h.mute (.of_eq rfl rfl rfl rfl) (.of_eq rfl rfl rfl rfl)
    (congrArg (fun u : World => { u with listening := false }) h.hushed)

theorem stops (markers : List String) (heard : Nat → Prop) :
    Stops .none (Resembles markers heard) :=
  .of_advanceTo (fun h => h.now_eq) (fun h => h.visibleExit) (fun h => h.signal)
    fun h => h.advanceTo

end Resembles

end World

namespace Session

variable {s r : Session} {markers : List String} {heard : Nat → Prop}

/-- Sessions that have done the same at the same times, whatever was said meanwhile. -/
structure SameCourse (s r : Session) : Prop where
  finished : s.finishedAt? = r.finishedAt?
  report : s.report = r.report
  record : s.world.events.filter (fun e => !e.2.isTalk) =
    r.world.events.filter fun e => !e.2.isTalk

theorem InStep.run_resembling
    (h : InStep .none markers heard (World.Resembles markers heard) s r) :
    SameCourse s.run r.run ∧ ((∀ i, heard i) → ∀ t pid,
      (t, .note (.startupReported pid)) ∈ s.run.world.events ↔
        (t, .note (.startupReported pid)) ∈ r.run.world.events) := by
  obtain ⟨s', r', c, c', h', -, -, hs, hr⟩ :=
    (InStep.tracks (World.Resembles.mirrors markers heard) (World.Resembles.stops markers heard)
      fun h => h.advanceTo).run h
  rw [hs, hr]
  refine ⟨⟨?_, ?_, ?_⟩, fun hall t pid => ?_⟩
  · exact h'.finishedAt?.trans Option.map_id'
  · exact h'.report
  · have hrecord : s'.world.hushed.trace = r'.world.hushed.trace := by rw [h'.world.hushed]
    change List.filter _ s'.world.trace.reverse = List.filter _ r'.world.trace.reverse
    rw [List.filter_reverse, List.filter_reverse]
    exact congrArg List.reverse hrecord
  · change _ ∈ s'.world.trace.reverse ↔ _ ∈ r'.world.trace.reverse
    rw [List.mem_reverse, List.mem_reverse]
    exact h'.world.reports hall t pid

/-- Whether what is due can matter to the session: any line may that a new child writes on its
standard output, and of those that are there now the one whose startup is underway, as long as its
latch has not fired. -/
def heeds (s : Session) (d : Due) : Bool :=
  match d.what with
  | .line _ .stderr _ => false
  | .line i .stdout _ => s.world.children.length ≤ i ||
    decide (s.phase.Listens s.backend i) && !s.world.latchFired i
  | _ => true

theorem heeds_of_not_line (s : Session) {d : Due} (h : d.isLine = false) : s.heeds d = true := by
  obtain ⟨time, what⟩ := d
  cases what with
  | line i stream text => cases h
  | _ => rfl

theorem heeds_of_signals {d : Due} {i : Nat} (hd : d.signals i markers = true)
    (hi : s.world.children.length ≤ i ∨
      s.phase.Listens s.backend i ∧ s.world.latchFired i = false) : s.heeds d = true := by
  obtain ⟨time, what⟩ := d
  cases what with
  | line j stream text =>
    cases stream with
    | stderr => cases hd
    | stdout =>
      simp only [Due.signals, Bool.and_eq_true, decide_eq_true_eq] at hd
      obtain ⟨rfl, -⟩ := hd
      simp only [heeds, Bool.or_eq_true, Bool.and_eq_true, Bool.not_eq_true', decide_eq_true_eq]
      exact hi
  | _ => cases hd

/-- What a session does not heed may be left out of its future, or be put there. -/
theorem resembles_withAgenda (markers : List String) (sorted : Due.Sorted s.world.agenda)
    {agenda : List Due} (sorted' : Due.Sorted agenda)
    (same : agenda.filter s.heeds = s.world.agenda.filter s.heeds) :
    World.Resembles markers (fun i => s.world.children.length ≤ i ∨ s.phase.Listens s.backend i)
      s.world (s.world.withAgenda agenda) := by
  have hmem {d : Due} (hd : s.heeds d = true) : d ∈ s.world.agenda ↔ d ∈ agenda := by
    have : d ∈ s.world.agenda.filter s.heeds ↔ d ∈ agenda.filter s.heeds := by rw [same]
    rwa [List.mem_filter, List.mem_filter, and_iff_left hd, and_iff_left hd] at this
  have hsignals {i : Nat} {ms : List String} (hi : s.world.children.length ≤ i ∨
      s.phase.Listens s.backend i ∧ s.world.latchFired i = false) (t : Nat) :
      s.world.SignalAt i ms t ↔ (s.world.withAgenda agenda).SignalAt i ms t := by
    constructor
    · rintro ⟨d, hd, ht, hs⟩
      exact ⟨d, (hmem (heeds_of_signals hs hi)).1 hd, ht, hs⟩
    · rintro ⟨d, hd, ht, hs⟩
      exact ⟨d, (hmem (heeds_of_signals hs hi)).2 hd, ht, hs⟩
  refine ⟨?_, sorted, sorted', List.forall₂_same.2 fun c _ => .refl markers c, fun _ _ => rfl,
    fun i l hi hl hf t => ?_, fun i hi => ⟨.inl hi, hsignals (.inl hi)⟩, fun _ _ _ => Iff.rfl⟩
  · have hquiet (ds : List Due) :
        (ds.filter s.heeds).filter (fun d => !d.isLine) = ds.filter fun d => !d.isLine := by
      rw [List.filter_filter]
      refine List.filter_congr fun d _ => ?_
      cases hd : d.isLine with
      | true => rfl
      | false => rw [s.heeds_of_not_line hd]; rfl
    have hagenda : agenda.filter (fun d => !d.isLine) =
        s.world.agenda.filter fun d => !d.isLine := by
      rw [← hquiet, same, hquiet]
    unfold World.hushed
    rw [show (s.world.withAgenda agenda).agenda = agenda from rfl, hagenda]
    rfl
  · have hlisten : s.world.children.length ≤ i ∨
        s.phase.Listens s.backend i ∧ s.world.latchFired i = false := by
      refine hi.imp_right fun hi => ⟨hi, ?_⟩
      rw [World.latchFired_eq, hl]
      exact hf
    simp only [World.SignalBy, hsignals hlisten]

end Session

namespace Opening

open Session

variable {o o' : Opening}

/-- From here on, a run is the same whatever the children that are not heeded will say. -/
theorem sameCourse_withAgenda (sorted : Due.Sorted o.world.agenda) (k : Nat) {agenda : List Due}
    (sorted' : Due.Sorted agenda)
    (same : agenda.filter (o.state k).heeds =
      (o.state k).world.agenda.filter (o.state k).heeds) :
    SameCourse o.session.play
      ((o.state k).inWorld ((o.state k).world.withAgenda agenda)).run := by
  let s := o.state k
  let markers := s.config.readiness.markers
  let heard (i : Nat) := s.world.children.length ≤ i ∨ s.phase.Listens s.backend i
  have hworld : World.Resembles markers heard s.world (s.world.withAgenda agenda) :=
    resembles_withAgenda markers (o.orderly sorted k).world.sorted sorted' same
  have hbackend : s.backend = s.backend.map (Handle.after .none) := Option.map_id'.symm
  have hstep : InStep .none markers heard (World.Resembles markers heard) s
      (s.inWorld (s.world.withAgenda agenda)) :=
    ⟨⟨rfl, rfl, rfl, rfl, hworld, rfl, hbackend, rfl, rfl, rfl⟩, s.phase.after_none.symm,
      fun i hi => .inr hi⟩
  rw [o.play_eq_run k]
  exact hstep.run_resembling.1

/-- Two runs as they begin, in worlds that differ in what the children will write. -/
theorem inStep_of_alike {scripts : List ChildScript} (config : o'.config = o.config)
    (program : o'.program = o.program)
    (world : o'.world = { o.world with childScripts := scripts })
    (sorted : Due.Sorted o.world.agenda)
    (alike : List.Forall₂ (ChildScript.Resembles o.config.readiness.markers)
      o.world.childScripts scripts) :
    InStep .none o.config.readiness.markers (fun _ => True)
      (World.Resembles o.config.readiness.markers fun _ => True) (o.state 0) (o'.state 0) := by
  have hblank : o.world.latch? = fun _ => none := funext fun i =>
    World.latch?_of_length_le (by rw [o.childless]; exact Nat.zero_le _)
  have hworld : World.Resembles o.config.readiness.markers (fun _ => True) o.world o'.world := by
    rw [world]
    refine ⟨?_, sorted, sorted, alike, fun _ _ => rfl, fun i l _ hl => ?_,
      fun _ _ => ⟨trivial, fun _ => Iff.rfl⟩, fun _ _ _ => Iff.rfl⟩
    · have hscripts : o.world.childScripts.map ChildScript.hushed =
          scripts.map ChildScript.hushed := by
        rw [← List.forall₂_eq_eq_eq, List.forall₂_map_left_iff, List.forall₂_map_right_iff]
        exact alike.imp fun _ _ h => h.hushed
      unfold World.hushed
      rw [hscripts]
    · rw [hblank] at hl
      cases hl
  refine inStep_zero config program ?_
  rw [← hworld.now_eq]
  exact hworld.advanceTo o.world.now

/-- What the children say decides nothing but when each says its first line with a marker, and that
only while the session waits for it to be ready. Two runs in worlds that differ only in what the
children write, and where the first line with a marker comes at the same time for each child or
never, end at the same instant with the same report, and do the same at the same times; what is
recorded besides is what was said. Nor does it matter to the rest of a run what is still to come
on a standard error, of a child after its first such line, or of a child that is not waited for. -/
theorem first_marker_decides {scripts : List ChildScript} (config : o'.config = o.config)
    (program : o'.program = o.program)
    (world : o'.world = { o.world with childScripts := scripts })
    (sorted : Due.Sorted o.world.agenda)
    (alike : List.Forall₂ (ChildScript.Resembles o.config.readiness.markers)
      o.world.childScripts scripts) :
    (SameCourse o.session.play o'.session.play ∧ ∀ t pid,
      (t, .note (.startupReported pid)) ∈ o.session.play.world.events ↔
        (t, .note (.startupReported pid)) ∈ o'.session.play.world.events) ∧
    ∀ k agenda, Due.Sorted agenda →
      agenda.filter (o.state k).heeds = (o.state k).world.agenda.filter (o.state k).heeds →
      SameCourse o.session.play
        ((o.state k).inWorld ((o.state k).world.withAgenda agenda)).run := by
  obtain ⟨hcourse, hreports⟩ :=
    (inStep_of_alike config program world sorted alike).run_resembling
  exact ⟨⟨hcourse, hreports fun _ => trivial⟩, fun k agenda => sameCourse_withAgenda sorted k⟩

/-- A backend is there for whatever it says, and after 100 ms the session is to quit. -/
def sayingWorld (stdout stderr : Option (List Chunk)) : World :=
  { World.empty with
    files := ⟨[([[98]], .file true)]⟩
    childScripts := [{ ChildScript.inert with stdout := stdout, stderr := stderr }]
    agenda := [⟨100, .command .quit⟩] }

def sayingRun (stdout stderr : Option (List Chunk)) : Opening :=
  crashingRun.inWorld (sayingWorld stdout stderr) rfl rfl

/-- It says "Uvicorn running". -/
def sayingReady (time : Nat) : Chunk :=
  ⟨time, [85, 118, 105, 99, 111, 114, 110, 32, 114, 117, 110, 110, 105, 110, 103, 10], false, none⟩

/-- To say it again, or elsewhere, or to say something else before, makes no difference; and once it
has been said, it might as well not be said again. -/
theorem saying_more_decides_nothing :
    let chatty := sayingRun (some [⟨5, [104, 105, 10], false, none⟩, sayingReady 20, sayingReady 30])
      (some [sayingReady 1])
    let terse := sayingRun (some [sayingReady 20]) none
    SameCourse chatty.session.play terse.session.play ∧
      SameCourse chatty.session.play ((chatty.state 5).inWorld
        ((chatty.state 5).world.withAgenda [⟨100, .command .quit⟩])).run := by
  intro chatty terse
  have hsorted : Due.Sorted chatty.world.agenda := by decide
  have halike : List.Forall₂ (ChildScript.Resembles chatty.config.readiness.markers)
      chatty.world.childScripts terse.world.childScripts := .cons ⟨rfl, by rfl⟩ .nil
  obtain ⟨⟨hcourse, -⟩, hrest⟩ := @first_marker_decides chatty terse _ rfl rfl rfl hsorted halike
  exact ⟨hcourse, hrest 5 [⟨100, .command .quit⟩] (by decide) (by decide +kernel)⟩

end Opening
end DesktopHost
