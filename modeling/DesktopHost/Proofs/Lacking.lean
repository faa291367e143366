import DesktopHost.Proofs.Independence
import DesktopHost.Proofs.Interspersed
import DesktopHost.Proofs.Lockstep

/-!
A world beside the same world without some of its commands. The commands that are left out may
still be due, or wait in the queue; what they have left in the record so far is kept count of.
-/

set_option autoImplicit false

namespace DesktopHost

/-- A command, and when it is sent. -/
structure Sent where
  time : Nat
  command : Command

namespace Sent

def due (s : Sent) : Due := ⟨s.time, .command s.command⟩

/-- The record of its arrival at a session that listens. -/
def arrival (s : Sent) : Nat × Event := (s.time, .command s.command (some true))

/-- The record of its being ignored as soon as it arrives. -/
def ignoring (s : Sent) : Nat × Event := (s.time, .note (.commandIgnored s.command))

/-- All that the record says of a command that is ignored. -/
def record (s : Sent) : List (Nat × Event) := [s.arrival, s.ignoring]

theorem records_perm (sent : List Sent) :
    (sent.map arrival ++ sent.map ignoring).Perm (sent.flatMap record) := by
  induction sent with
  | nil => exact .refl _
  | cons s rest ih =>
    rw [List.map_cons, List.map_cons, List.cons_append, List.flatMap_cons, record]
    exact (List.perm_middle.trans (ih.cons _)).cons _

/-- What is to be recorded of those that have arrived, newest first on a record that goes on. -/
theorem arrived_perm (sent : List Sent) (record : List (Nat × Event)) :
    ((sent.map arrival).reverse ++ record ++ sent.map ignoring).Perm
      (record ++ sent.flatMap Sent.record) := by
  have hrecords : ((sent.map arrival).reverse ++ sent.map ignoring).Perm
      (sent.flatMap Sent.record) :=
    ((List.reverse_perm _).append_right _).trans (records_perm sent)
  have hfront : ((sent.map arrival).reverse ++ record ++ sent.map ignoring).Perm
      (record ++ (sent.map arrival).reverse ++ sent.map ignoring) :=
    List.perm_append_comm.append_right _
  rw [List.append_assoc record] at hfront
  exact hfront.trans (hrecords.append_left record)

/-- Those that are sent by `t`, and those that are sent later. -/
theorem exists_split {sent : List Sent} (sorted : Due.Sorted (sent.map due)) (t : Nat) :
    ∃ early late, sent = early ++ late ∧ (∀ s ∈ early, s.time ≤ t) ∧ ∀ s ∈ late, t < s.time := by
  induction sent with
  | nil => exact ⟨[], [], rfl, nofun, nofun⟩
  | cons s rest ih =>
    by_cases hs : s.time ≤ t
    · obtain ⟨early, late, rfl, he, hl⟩ := ih (List.pairwise_cons.1 sorted).2
      refine ⟨s :: early, late, rfl, fun x hx => ?_, hl⟩
      rcases List.mem_cons.1 hx with rfl | hx
      · exact hs
      · exact he x hx
    · refine ⟨[], s :: rest, rfl, nofun, fun x hx => ?_⟩
      have hall := sorted.lt_of_lt_head (t := t) (Nat.lt_of_not_le hs)
      exact hall x.due (List.mem_map_of_mem hx)

end Sent

namespace World

/-- The world `v` is `w` without the commands `due`, which are still to come, and `queued`, which
have arrived and not been taken yet; `extra` is what the record of `w` has on top. -/
structure Lacks (due queued : List Sent) (extra : List (Nat × Event)) (w v : World) : Prop where
  now : w.now = v.now
  agenda : Interspersed (due.map Sent.due) v.agenda w.agenda
  sorted : Due.Sorted w.agenda
  files : w.files = v.files
  cwd : w.cwd = v.cwd
  children : w.children = v.children
  childScripts : w.childScripts = v.childScripts
  health : w.health = v.health
  checks : w.checks = v.checks
  surface : w.surface = v.surface
  panics : w.panics = v.panics
  queue : Interspersed (queued.map Sent.command) v.queue w.queue
  handleHeld : w.handleHeld = v.handleHeld
  listening : w.listening = v.listening
  record : Interspersed extra v.trace w.trace

namespace Lacks

variable {due queued : List Sent} {extra : List (Nat × Event)} {w v : World}

theorem emit (h : Lacks due queued extra w v) (e : Event) :
    Lacks due queued extra (w.emit e) (v.emit e) :=
  { h with
    record := by
      rw [World.emit, World.emit, h.now]
      exact h.record.kept _ }

theorem note (h : Lacks due queued extra w v) (n : Note) :
    Lacks due queued extra (w.note n) (v.note n) :=
  h.emit (.note n)

theorem withClock (h : Lacks due queued extra w v) (t : Nat) :
    Lacks due queued extra (w.withClock t) (v.withClock t) :=
  { h with now := rfl }

theorem child? (h : Lacks due queued extra w v) (i : Nat) : w.child? i = v.child? i := by
  rw [World.child?, World.child?, h.children]

theorem updateChild (h : Lacks due queued extra w v) (i : Nat) (f : Child → Child) :
    Lacks due queued extra (w.updateChild i f) (v.updateChild i f) :=
  { h with children := by rw [World.updateChild, World.updateChild, h.children] }

theorem addChild (h : Lacks due queued extra w v) (c : Option Child) :
    Lacks due queued extra { w with children := w.children ++ [c] }
      { v with children := v.children ++ [c] } :=
  { h with children := by rw [h.children] }

theorem schedule (h : Lacks due queued extra w v) {ds es : List Due} (hds : ds = es) :
    Lacks due queued extra (w.schedule ds) (v.schedule es) :=
  { h with
    agenda := hds ▸ h.agenda.insertAll h.sorted ds
    sorted := h.sorted.insertAll ds }

/-- Whatever is due without them is due with them. -/
theorem nextDue? (h : Lacks due queued extra w v) {t : Nat} (ht : v.nextDue? = some t) :
    ∃ u, w.nextDue? = some u ∧ u ≤ t := by
  obtain ⟨d, hd, rfl⟩ := Option.map_eq_some_iff.1 ht
  have hmem : d ∈ w.agenda := h.agenda.sublist.subset (List.mem_of_mem_head? hd)
  have hsorted := h.sorted
  unfold World.nextDue?
  cases ha : w.agenda with
  | nil => rw [ha] at hmem; cases hmem
  | cons e rest =>
    rw [ha] at hmem hsorted
    refine ⟨e.time, rfl, ?_⟩
    rcases List.mem_cons.1 hmem with rfl | hmem
    · exact Nat.le_refl _
    · exact (List.pairwise_cons.1 hsorted).1 d hmem

theorem visibleExit (h : Lacks due queued extra w v) (i : Nat) :
    w.visibleExit i = v.visibleExit i := by
  rw [World.visibleExit, World.visibleExit, h.child?]

theorem publishedExit (h : Lacks due queued extra w v) (i : Nat) :
    w.publishedExit i = v.publishedExit i := by
  rw [World.publishedExit, World.publishedExit, h.child?]

theorem latchFired (h : Lacks due queued extra w v) (i : Nat) :
    w.latchFired i = v.latchFired i := by
  rw [World.latchFired, World.latchFired, h.child?]

/-- Only where nothing that is left out waits in the queue do both receive the same. -/
theorem receive (h : Lacks due [] extra w v) :
    Same (Lacks due [] extra) w.receive v.receive := by
  have hqueue : w.queue = v.queue := h.queue.eq_of_nil
  unfold World.receive
  rw [hqueue, h.handleHeld]
  split
  · next c rest _ =>
    exact .mk _ { h with
      queue := .refl rest
      handleHeld := rfl }
  · split <;> exact .mk _ h

theorem startCheck (h : Lacks due queued extra w v) :
    Lacks due queued extra w.startCheck.1 v.startCheck.1 ∧ w.startCheck.2 = v.startCheck.2 := by
  have hcall : Lacks due queued extra (w.emit (.healthCall (w.checks + 1)))
      (v.emit (.healthCall (v.checks + 1))) := by
    rw [h.checks]
    exact h.emit _
  have hrest : Lacks due queued extra
      { w.emit (.healthCall (w.checks + 1)) with
        checks := w.checks + 1, health := (nextOf HealthAnswer.silent w.health).2 }
      { v.emit (.healthCall (v.checks + 1)) with
        checks := v.checks + 1, health := (nextOf HealthAnswer.silent v.health).2 } :=
    { hcall with
      checks := congrArg (· + 1) h.checks
      health := by rw [h.health] }
  have hnow := h.now
  unfold World.startCheck
  dsimp only
  rw [h.health] at hrest ⊢
  split
  · exact ⟨hrest, rfl⟩
  · refine ⟨hrest, ?_⟩
    simp [hnow]

theorem openWindow (h : Lacks due queued extra w v) (url : String) :
    Same (Lacks due queued extra) (w.openWindow url) (v.openWindow url) := by
  have hrest : Lacks due queued extra
      { w.emit (.openWindow url) with surface := (nextOf SurfaceAnswer.ok v.surface).2 }
      { v.emit (.openWindow url) with surface := (nextOf SurfaceAnswer.ok v.surface).2 } :=
    { h.emit (.openWindow url) with surface := rfl }
  unfold World.openWindow
  dsimp only
  rw [h.surface]
  split <;> exact .mk _ hrest

theorem showDialog (h : Lacks due queued extra w v) (d : Dialog) :
    Same (Lacks due queued extra) (w.showDialog d) (v.showDialog d) := by
  have hd := h.emit (.dialog d)
  have hrest (rest : List (Option String)) : Lacks due queued extra
      { w.emit (.dialog d) with panics := rest } { v.emit (.dialog d) with panics := rest } :=
    { hd with panics := rfl }
  unfold World.showDialog
  dsimp only
  rw [show (w.emit (.dialog d)).panics = (v.emit (.dialog d)).panics from h.panics]
  split
  · exact .mk _ ((hrest _).note (.uncaughtPanic _))
  · exact .mk _ (hrest _)
  · exact .mk _ hd

theorem spawn (h : Lacks due queued extra w v) (l : Launch) :
    Lacks due queued extra (w.spawn l).1 (v.spawn l).1 ∧ (w.spawn l).2 = (v.spawn l).2 := by
  have hspawn : Lacks due queued extra (w.emit (.spawn w.children.length l))
      (v.emit (.spawn v.children.length l)) := by
    rw [h.children]
    exact h.emit _
  have hrest : Lacks due queued extra
      { w.emit (.spawn w.children.length l) with
        childScripts := (nextOf ChildScript.inert w.childScripts).2 }
      { v.emit (.spawn v.children.length l) with
        childScripts := (nextOf ChildScript.inert v.childScripts).2 } :=
    { hspawn with childScripts := by rw [h.childScripts] }
  have hnow := h.now
  unfold World.spawn
  dsimp only
  rw [h.childScripts] at hrest ⊢
  split
  · exact ⟨hrest.addChild none, rfl⟩
  · refine ⟨(hrest.addChild _).schedule ?_, by rw [h.children]⟩
    simp only [emit_now, hnow, h.children]

theorem attachReaders (h : Lacks due queued extra w v) (i : Nat) (markers : List String) :
    Lacks due queued extra (w.attachReaders i markers) (v.attachReaders i markers) := by
  have hnow := h.now
  unfold World.attachReaders
  rw [h.child?]
  split
  · exact h
  · exact (h.updateChild i _).schedule (by simp only [updateChild_now, hnow])

theorem spawnBackend (h : Lacks due queued extra w v) (l : Launch) (markers : List String) :
    Lacks due queued extra (w.spawnBackend l markers).1 (v.spawnBackend l markers).1 ∧
      (w.spawnBackend l markers).2 = (v.spawnBackend l markers).2 := by
  unfold World.spawnBackend
  rw [h.files, h.cwd]
  split
  · obtain ⟨hs, hi⟩ := h.spawn l
    generalize w.spawn l = x at hs hi
    generalize v.spawn l = y at hs hi
    obtain ⟨w', result⟩ := x
    obtain ⟨v', result'⟩ := y
    cases result' with
    | error f =>
      cases hi
      exact ⟨hs.note (.spawnFailed l.program f), rfl⟩
    | ok i =>
      cases hi
      refine ⟨hs.attachReaders i markers, ?_⟩
      have hchild : w'.child? i = v'.child? i := hs.child? i
      simp only [Handle.ofChild, hchild]
  · exact ⟨h.note (.executableMissing l.program), rfl⟩

theorem signal (h : Lacks due queued extra w v) (i : Nat) (s : TerminationSignal) :
    Same (Lacks due queued extra) (w.signal i s) (v.signal i s) := by
  have hs := h.emit (.signal i s)
  unfold World.signal
  dsimp only
  rw [hs.child?]
  refine .mk _ ?_
  split
  · exact hs
  · exact hs.updateChild i _
  · exact hs.schedule (by rw [hs.now])

theorem sendCommand (h : Lacks due queued extra w v) (c : Command) :
    Lacks due queued extra (w.sendCommand c) (v.sendCommand c) := by
  unfold World.sendCommand
  rw [h.handleHeld, h.listening]
  split
  · split
    · exact { h.emit (.command c (some true)) with
        queue := by simpa using h.queue.append (.refl [c]) }
    · exact h.emit _
  · exact h.emit _

theorem readLine (h : Lacks due queued extra w v) (i : Nat) (stream : StreamKind) (text : String) :
    Lacks due queued extra (w.readLine i stream text) (v.readLine i stream text) := by
  unfold World.readLine
  rw [h.child?]
  split
  · exact h
  · next c _ =>
    have hl := h.emit (.line c.pid stream text)
    cases stream with
    | stderr => exact hl
    | stdout =>
      dsimp only
      split
      · exact (hl.updateChild i _).note _
      · exact hl.updateChild i _

theorem occur (h : Lacks due queued extra w v) (o : Occurrence) :
    Lacks due queued extra (w.occur o) (v.occur o) := by
  cases o with
  | command c => exact h.sendCommand c
  | dropHandle => exact { h with handleHeld := rfl }
  | exit i code =>
    change Lacks due queued extra ((w.emit (.exit i code (w.child? i).isSome)).publish i code)
      ((v.emit (.exit i code (v.child? i).isSome)).publish i code)
    rw [h.child?]
    exact (h.emit _).updateChild i _
  | ownExit i code => exact h.updateChild i _
  | unwatch i => exact h.updateChild i _
  | line i stream text => exact h.readLine i stream text
  | nothing => exact h

theorem meet (h : Lacks due queued extra w v) (d : Due) :
    Lacks due queued extra (w.meet d) (v.meet d) := by
  unfold World.meet
  rw [h.now]
  exact (h.withClock (max v.now d.time)).occur d.what

/-- A command that is left out arrives in the one world only. -/
theorem meet_sent (h : Lacks due queued extra w v) {s : Sent} (hs : w.now ≤ s.time)
    (held : w.handleHeld = true) (listens : w.listening = true) :
    Lacks due (queued ++ [s]) (s.arrival :: extra) (w.meet s.due)
      (v.withClock (max v.now s.time)) := by
  have hnow : max w.now s.time = s.time := Nat.max_eq_right hs
  have hmeet : w.meet s.due = { (w.withClock s.time).emit (.command s.command (some true)) with
      queue := w.queue ++ [s.command] } := by
    change ({ w with now := max w.now s.time }).sendCommand s.command = _
    unfold World.sendCommand
    rw [if_pos held, if_pos listens, hnow]
    rfl
  rw [hmeet]
  exact { h with
    now := by
      rw [h.now] at hnow
      exact hnow.symm
    queue := by
      have hqueue : Interspersed (queued.map Sent.command ++ [s.command]) (v.queue ++ [])
          (w.queue ++ [s.command]) := h.queue.append (.extra s.command .nil)
      rw [List.append_nil] at hqueue
      rw [List.map_append]
      exact hqueue
    record := h.record.extra s.arrival }

/-- What is met on the way, with and without the commands that are left out. -/
theorem foldl_meet {sent : List Sent} {rest all : List Due} (h : Lacks due queued extra w v)
    (hin : Interspersed (sent.map Sent.due) rest all) (sorted : Due.Sorted all)
    (late : ∀ s ∈ sent, w.now ≤ s.time)
    (hears : sent ≠ [] → (all.foldl World.meet w).handleHeld = true ∧ w.listening = true)
    (t : Nat) : Lacks due (queued ++ sent) ((sent.map Sent.arrival).reverse ++ extra)
      ((all.foldl World.meet w).withClock t) ((rest.foldl World.meet v).withClock t) := by
  generalize hextra : sent.map Sent.due = added at hin
  -- each entry is met in both worlds, or is left out and goes from `sent` to the queue
  induction hin generalizing sent queued extra w v with
  | nil =>
    obtain rfl := List.map_eq_nil_iff.1 hextra
    simpa using h.withClock t
  | @extra a added rest all hin ih =>
    obtain ⟨s, more, rfl, rfl, rfl⟩ := List.map_eq_cons_iff.1 hextra
    obtain ⟨hfirst, hsorted⟩ := List.pairwise_cons.1 sorted
    obtain ⟨hheld, hlistens⟩ := hears (List.cons_ne_nil _ _)
    have hmet : (w.meet s.due).handleHeld = true := by
      by_contra hfalse
      have := handleHeld_foldl_meet (w := w.meet s.due) all (Bool.eq_false_iff.2 hfalse)
      rw [List.foldl_cons, this] at hheld
      cases hheld
    have hs := late s List.mem_cons_self
    have hstep := h.meet_sent hs (by rw [(w.meet_frame s.due).1] at hmet; exact hmet) hlistens
    have hrest := ih hstep hsorted (fun x hx => ?_) (fun _ : more ≠ [] => ⟨hheld, ?_⟩) rfl
    · rw [foldl_meet_withClock] at hrest
      · simpa using hrest
      · intro d hd
        exact hfirst d (hin.sublist.subset (List.mem_of_mem_head? hd))
    · have hx' : s.time ≤ x.time := hfirst x.due (hin.subset (List.mem_map_of_mem hx))
      have := late x (List.mem_cons_of_mem _ hx)
      rw [meet_now]
      exact Nat.max_le.2 ⟨this, hx'⟩
    · rw [(w.meet_frame s.due).2.1]
      exact hlistens
  | @kept a added rest all hin ih =>
    obtain ⟨hfirst, hsorted⟩ := List.pairwise_cons.1 sorted
    refine ih (h.meet a) hsorted (fun x hx => ?_) (fun hne => ⟨(hears hne).1, ?_⟩) hextra
    · have hx' : a.time ≤ x.time := by
        refine hfirst x.due (hin.subset ?_)
        rw [← hextra]
        exact List.mem_map_of_mem hx
      rw [meet_now]
      exact Nat.max_le.2 ⟨late x hx, hx'⟩
    · rw [(w.meet_frame a).2.1]
      exact (hears hne).2

/-- Time passes. What is left out arrives meanwhile, or later. -/
theorem advanceTo {early : List Sent} (h : Lacks (early ++ due) queued extra w v) {t : Nat}
    (he : ∀ s ∈ early, w.now ≤ s.time ∧ s.time ≤ t) (hd : ∀ s ∈ due, t < s.time)
    (hears : early ≠ [] → (w.advanceTo t).handleHeld = true ∧ w.listening = true) :
    Lacks due (queued ++ early) ((early.map Sent.arrival).reverse ++ extra) (w.advanceTo t)
      (v.advanceTo t) := by
  obtain ⟨hup, hbeyond⟩ := h.agenda.split h.sorted t
  have hcut : Due.upTo t ((early ++ due).map Sent.due) = early.map Sent.due ∧
      Due.beyond t ((early ++ due).map Sent.due) = due.map Sent.due := by
    have hlate : ∀ d ∈ due.map Sent.due, t < d.time := by
      intro d hmem
      obtain ⟨s, hs, rfl⟩ := List.mem_map.1 hmem
      exact hd s hs
    have hearly : ∀ d ∈ early.map Sent.due, decide (d.time ≤ t) = true := by
      intro d hmem
      obtain ⟨s, hs, rfl⟩ := List.mem_map.1 hmem
      exact decide_eq_true (he s hs).2
    rw [List.map_append, Due.upTo, Due.beyond, List.takeWhile_append_of_pos hearly,
      List.dropWhile_append_of_pos hearly]
    refine ⟨?_, Due.beyond_of_lt hlate⟩
    rw [show List.takeWhile _ _ = [] from Due.upTo_of_lt hlate, List.append_nil]
  rw [hcut.1] at hup
  rw [hcut.2] at hbeyond
  have hleft : Lacks due queued extra (w.withAgenda (Due.beyond t w.agenda))
      (v.withAgenda (Due.beyond t v.agenda)) :=
    { h with
      agenda := hbeyond
      sorted := h.sorted.beyond t }
  have hsorted : Due.Sorted (Due.upTo t w.agenda) := h.sorted.sublist (List.takeWhile_sublist _)
  rw [advanceTo_eq, advanceTo_eq, h.now]
  exact hleft.foldl_meet hup hsorted (fun s hs => (he s hs).1)
    (fun hne => hears hne) _

theorem advanceTo_unreached (h : Lacks due [] extra w v) {t : Nat} (hd : ∀ s ∈ due, t < s.time) :
    Lacks due [] extra (w.advanceTo t) (v.advanceTo t) := by
  have hnone : Lacks ([] ++ due) [] extra w v := h
  exact hnone.advanceTo nofun hd fun hne => absurd rfl hne

/-- What is left out of the future alone makes no difference yet. -/
theorem mirrors (due : List Sent) (extra : List (Nat × Event)) (markers : List String) :
    Mirrors .none markers (fun _ => True) (Lacks due [] extra) where
  now h := h.now
  visibleExit h := h.visibleExit
  publishedExit h := h.publishedExit
  latchFired h i _ := h.latchFired i
  emit h e := by
    rw [e.after_none]
    exact h.emit e
  receive h := h.receive
  startCheck h := by
    obtain ⟨hworld, hanswer⟩ := h.startCheck
    exact ⟨hworld, hanswer.trans Option.map_id'.symm⟩
  openWindow h := h.openWindow
  showDialog h := h.showDialog
  spawnBackend h l := by
    obtain ⟨hworld, hresult⟩ := h.spawnBackend l markers
    refine ⟨hworld, hresult.trans ?_⟩
    generalize (World.spawnBackend _ l markers).2 = x
    cases x <;> rfl
  hears _ _ _ _ := trivial
  deafen h := { h with listening := rfl }

/-- Where nothing is left out any more, nor does it later. -/
theorem stops (extra : List (Nat × Event)) : Stops .none (Lacks [] [] extra) :=
  .of_advanceTo (fun h => h.now) (fun h => h.visibleExit) (fun h => h.signal)
    fun h _ => h.advanceTo_unreached nofun

end Lacks
end World
end DesktopHost
