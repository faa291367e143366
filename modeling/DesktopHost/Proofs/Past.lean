import DesktopHost.Backend.Shutdown
import DesktopHost.Proofs.Acts
import DesktopHost.Proofs.Agenda
import DesktopHost.Proofs.FirstSignal
import DesktopHost.Window.Host

/-!
A world with a past beside the same world without one: its clock is late, it still knows children
of earlier cycles, and what is due to them still stands on its agenda. What both do from then on is
the same, but for the clock and the counting.
-/

set_option autoImplicit false

namespace DesktopHost

/-- What lies behind a session: the time that has passed, how many children have been spawned,
health checks made, cycles begun and errors shown, and what the session did, newest first. -/
structure Past where
  time : Nat
  children : Nat
  checks : Nat
  cycles : Nat
  errors : Nat
  record : List (Nat × Event)

namespace Occurrence

/-- The child that it happens to. -/
def child? : Occurrence → Option Nat
  | .exit i _ | .ownExit i _ | .unwatch i | .line i _ _ => some i
  | .command _ | .dropHandle | .nothing => none

def mapChild (f : Nat → Nat) : Occurrence → Occurrence
  | .exit i code => .exit (f i) code
  | .ownExit i code => .ownExit (f i) code
  | .unwatch i => .unwatch (f i)
  | .line i stream text => .line (f i) stream text
  | .command c => .command c
  | .dropHandle => .dropHandle
  | .nothing => .nothing

def after (p : Past) (o : Occurrence) : Occurrence := o.mapChild (· + p.children)

/-- Whether it happens to one of the first `k` children. -/
def isPast (k : Nat) (o : Occurrence) : Bool := o.child?.any (· < k)

theorem isPast_after (p : Past) (o : Occurrence) : (o.after p).isPast p.children = false := by
  cases o <;> simp [after, mapChild, isPast, child?]

theorem isPast_mono {o : Occurrence} {i j : Nat} (h : o.isPast i = true) (hij : i ≤ j) :
    o.isPast j = true := by
  unfold isPast at h ⊢
  cases hc : o.child? with
  | none => rw [hc] at h; cases h
  | some k =>
    rw [hc] at h
    exact decide_eq_true (Nat.lt_of_lt_of_le (of_decide_eq_true h) hij)

end Occurrence

/-- A record that counts cycles, after a past. -/
def Note.after (p : Past) : Note → Note
  | .transition source target cycle => .transition source target (cycle + p.cycles)
  | .cycleBegun cycle => .cycleBegun (cycle + p.cycles)
  | n => n

namespace Event

/-- What a session does itself or records of itself; the rest is done by others, or recorded by
the readers of its children. -/
def isOwn : Event → Bool
  | .command .. | .exit .. | .line .. | .note (.startupReported _) => false
  | _ => true

def after (p : Past) : Event → Event
  | .spawn child launch => .spawn (child + p.children) launch
  | .signal child s => .signal (child + p.children) s
  | .healthCall n => .healthCall (n + p.checks)
  | .note n => .note (n.after p)
  | e => e

theorem isOwn_after (p : Past) (e : Event) : (e.after p).isOwn = e.isOwn := by
  cases e with
  | note n => cases n <;> rfl
  | _ => rfl

end Event

namespace Due

def after (p : Past) (d : Due) : Due := ⟨d.time + p.time, d.what.after p⟩

theorem insert_after (p : Past) (d : Due) (agenda : List Due) :
    insert (d.after p) (agenda.map (after p)) = (insert d agenda).map (after p) := by
  induction agenda with
  | nil => rfl
  | cons e rest ih =>
    have hlt : (d.after p).time < (e.after p).time ↔ d.time < e.time := by simp [after]
    by_cases hd : d.time < e.time
    · simp [insert, hd, hlt]
    · simp [insert, hd, hlt, ih]

theorem insertAll_after (p : Past) (ds agenda : List Due) :
    insertAll (ds.map (after p)) (agenda.map (after p)) = (insertAll ds agenda).map (after p) := by
  induction ds generalizing agenda with
  | nil => rfl
  | cons d rest ih =>
    rw [List.map_cons, show insertAll (d.after p :: rest.map (after p)) (agenda.map (after p)) =
      insertAll (rest.map (after p)) (insert (d.after p) (agenda.map (after p))) from rfl,
      insert_after, ih]
    rfl

theorem upTo_after (p : Past) (t : Nat) (agenda : List Due) :
    upTo (t + p.time) (agenda.map (after p)) = (upTo t agenda).map (after p) ∧
      beyond (t + p.time) (agenda.map (after p)) = (beyond t agenda).map (after p) := by
  have hq : (fun d : Due => decide (d.time ≤ t + p.time)) ∘ after p =
      fun d => decide (d.time ≤ t) := by
    funext d
    simp [after]
  rw [upTo, beyond, List.takeWhile_map, List.dropWhile_map, hq]
  exact ⟨rfl, rfl⟩

/-- The entries that have nothing to do with the first `k` children. -/
def present (k : Nat) (agenda : List Due) : List Due := agenda.filter fun d => !d.what.isPast k

theorem present_after (p : Past) (ds : List Due) :
    present p.children (ds.map (after p)) = ds.map (after p) := by
  refine List.filter_eq_self.2 fun d hd => ?_
  obtain ⟨e, -, rfl⟩ := List.mem_map.1 hd
  simp [after, Occurrence.isPast_after]

end Due

def Handle.after (p : Past) (h : Handle) : Handle := { h with child := h.child + p.children }

namespace World

/-- What the session did, newest first. -/
def ownRecord (w : World) : List (Nat × Event) := w.trace.filter fun e => e.2.isOwn

/-- But for its clock, `w` is `v` after the past `p`. -/
structure Matches (p : Past) (w v : World) : Prop where
  agenda : Due.present p.children w.agenda = v.agenda.map (Due.after p)
  sorted : Due.Sorted w.agenda
  files : w.files = v.files
  cwd : w.cwd = v.cwd
  spawned : w.children.length = v.children.length + p.children
  child : ∀ i, w.child? (i + p.children) = v.child? i
  childScripts : w.childScripts = v.childScripts
  health : w.health = v.health
  checks : w.checks = v.checks + p.checks
  surface : w.surface = v.surface
  panics : w.panics = v.panics
  queue : w.queue = v.queue
  handleHeld : w.handleHeld = v.handleHeld
  listening : w.listening = v.listening
  record : w.ownRecord =
    v.ownRecord.map (fun e => (e.1 + p.time, e.2.after p)) ++ p.record

/-- Nothing is overdue but what happens to children that are known. -/
def Timely (w : World) : Prop :=
  ∀ d ∈ w.agenda, d.time ≤ w.now → d.what.isPast w.children.length = true

/-- The world `w` is `v` after the past `p`. -/
structure Follows (p : Past) (w v : World) : Prop extends Matches p w v where
  now : w.now = v.now + p.time
  timely : w.Timely

/-- The same answer, in worlds that agree but for the past. -/
inductive Agree {α : Type} (p : Past) : World × α → World × α → Prop where
  | mk {w v : World} (a : α) (h : w.Follows p v) : Agree p (w, a) (v, a)

variable {p : Past} {w v : World}

namespace Matches

theorem withClock (h : Matches p w v) (a b : Nat) : Matches p (w.withClock a) (v.withClock b) :=
  { h with }

theorem emit_left (h : Matches p w v) {e : Event} (he : e.isOwn = false) :
    Matches p (w.emit e) v :=
  { h with record := by rw [← h.record]; simp [ownRecord, emit, he] }

theorem emit_both (h : Matches p w v) {e d : Event} (he : e.isOwn = false)
    (hd : d.isOwn = false) : Matches p (w.emit e) (v.emit d) :=
  { h with
    record := by
      have := h.record
      simp only [ownRecord, emit] at this ⊢
      simp [he, hd, this] }

theorem updateChild (h : Matches p w v) (i : Nat) (f : Child → Child) :
    Matches p (w.updateChild (i + p.children) f) (v.updateChild i f) :=
  { h with
    spawned := by simpa [World.updateChild] using h.spawned
    child := fun j => by
      rw [child?_updateChild, child?_updateChild, h.child]
      simp }

theorem updateChild_left (h : Matches p w v) {i : Nat} (hi : i < p.children)
    (f : Child → Child) : Matches p (w.updateChild i f) v :=
  { h with
    spawned := by simpa [World.updateChild] using h.spawned
    child := fun j => by
      rw [child?_updateChild, if_neg (by omega), h.child] }

theorem sendCommand (h : Matches p w v) (c : Command) :
    Matches p (w.sendCommand c) (v.sendCommand c) := by
  unfold World.sendCommand
  rw [h.handleHeld, h.listening]
  split
  · split
    · exact { h.emit_both (e := .command c (some true)) (d := .command c (some true)) rfl rfl with
        queue := by rw [h.queue] }
    · exact h.emit_both rfl rfl
  · exact h.emit_both rfl rfl

theorem readLine (h : Matches p w v) (i : Nat) (stream : StreamKind) (text : String) :
    Matches p (w.readLine (i + p.children) stream text) (v.readLine i stream text) := by
  unfold World.readLine
  rw [h.child]
  split
  · exact h
  · next c _ =>
    have hl := h.emit_both (e := .line c.pid stream text) (d := .line c.pid stream text) rfl rfl
    cases stream with
    | stderr => exact hl
    | stdout =>
      dsimp only
      split
      · exact (hl.updateChild i _).emit_both rfl rfl
      · exact hl.updateChild i _

theorem readLine_left (h : Matches p w v) {i : Nat} (hi : i < p.children) (stream : StreamKind)
    (text : String) : Matches p (w.readLine i stream text) v := by
  unfold World.readLine
  split
  · exact h
  · next c _ =>
    have hl := h.emit_left (e := .line c.pid stream text) rfl
    cases stream with
    | stderr => exact hl
    | stdout =>
      dsimp only
      split
      · exact (hl.updateChild_left hi _).emit_left rfl
      · exact hl.updateChild_left hi _

theorem occur (h : Matches p w v) (o : Occurrence) : Matches p (w.occur (o.after p)) (v.occur o) := by
  cases o with
  | command c => exact h.sendCommand c
  | dropHandle => exact { h with handleHeld := rfl }
  | exit i code =>
    exact (h.emit_both (e := .exit (i + p.children) code (w.child? (i + p.children)).isSome)
      (d := .exit i code (v.child? i).isSome) rfl rfl).updateChild i _
  | ownExit i code => exact h.updateChild i _
  | unwatch i => exact h.updateChild i _
  | line i stream text => exact h.readLine i stream text
  | nothing => exact h

/-- What happens to a child of an earlier cycle does not show. -/
theorem occur_left (h : Matches p w v) {o : Occurrence} (ho : o.isPast p.children = true) :
    Matches p (w.occur o) v := by
  cases o with
  | exit i code =>
    exact (h.emit_left (e := .exit i code (w.child? i).isSome) rfl).updateChild_left
      (of_decide_eq_true ho) _
  | ownExit i code => exact h.updateChild_left (of_decide_eq_true ho) _
  | unwatch i => exact h.updateChild_left (of_decide_eq_true ho) _
  | line i stream text => exact h.readLine_left (of_decide_eq_true ho) stream text
  | _ => cases ho

theorem foldl_meet {ds es : List Due} (h : Matches p w v)
    (hds : Due.present p.children ds = es.map (Due.after p)) :
    Matches p (ds.foldl World.meet w) (es.foldl World.meet v) := by
  induction ds generalizing es w v with
  | nil =>
    rw [List.map_eq_nil_iff.1 hds.symm]
    exact h
  | cons d rest ih =>
    rw [Due.present, List.filter_cons] at hds
    cases hp : d.what.isPast p.children with
    | true =>
      rw [hp] at hds
      exact ih ((h.withClock (max w.now d.time) v.now).occur_left hp) hds
    | false =>
      rw [hp] at hds
      cases es with
      | nil => cases hds
      | cons e more =>
        obtain ⟨rfl, hrest⟩ := List.cons.inj hds
        exact ih (v := v.meet e)
          ((h.withClock (max w.now (e.after p).time) (max v.now e.time)).occur e.what) hrest

end Matches

/-- The clock may go on as long as nothing is due. -/
def MayLinger (v : World) (u : Nat) : Prop :=
  v.now = u ∨ v.now < u ∧ ∀ d ∈ v.agenda.head?, u < d.time

theorem MayLinger.advanceTo {u : Nat} (h : v.MayLinger u) {t : Nat} (hut : u ≤ t) :
    (v.withClock u).advanceTo t = v.advanceTo t := by
  rcases h with rfl | ⟨hu, hv⟩
  · rfl
  · have hnone : Due.upTo u v.agenda = [] :=
      v.upTo_of_lt_next fun t ht => by
        obtain ⟨d, hd, rfl⟩ := Option.map_eq_some_iff.1 ht
        exact hv d hd
    have hclock : v.advanceTo u = v.withClock u := by
      rw [v.advanceTo_of_upTo_nil hnone, Nat.max_eq_right (Nat.le_of_lt hu)]
    rw [← hclock, v.advanceTo_advanceTo hut]

theorem linesDue_after (p : Past) (now i : Nat) (stream : StreamKind)
    (chunks : Option (List Chunk)) :
    linesDue (now + p.time) (i + p.children) stream chunks =
      (linesDue now i stream chunks).map (Due.after p) := by
  rw [linesDue, linesDue, List.map_map]
  refine List.map_congr_left fun l _ => ?_
  simp only [Function.comp_apply, Due.after, Occurrence.after, Occurrence.mapChild]
  congr 1
  omega

theorem Timely.advanceTo (h : w.Timely) (sorted : Due.Sorted w.agenda) (t : Nat) :
    (w.advanceTo t).Timely := by
  intro d hd hle
  have hlength : (w.advanceTo t).children.length = w.children.length :=
    (w.later_advanceTo t).spawned
  rw [advanceTo_now] at hle
  rw [advanceTo_agenda] at hd
  rw [hlength]
  have hlt := sorted.lt_of_mem_beyond hd
  exact h d (List.dropWhile_subset _ hd) (by omega)

theorem Timely.updateChild (h : w.Timely) (i : Nat) (f : Child → Child) :
    (w.updateChild i f).Timely := by
  intro d hd hle
  rw [show (w.updateChild i f).children.length = w.children.length from List.length_modify ..]
  exact h d hd hle

theorem Timely.schedule (h : w.Timely) {ds : List Due}
    (hds : ∀ d ∈ ds, w.now < d.time ∨ d.what.isPast w.children.length = true) :
    (w.schedule ds).Timely := by
  intro d hd hle
  rcases List.mem_append.1 ((Due.insertAll_perm ds w.agenda).mem_iff.1 hd) with hd | hd
  · rcases hds d hd with hlt | hpast
    · exact absurd hle (Nat.not_le.2 hlt)
    · exact hpast
  · exact h d hd hle

namespace Follows

theorem emit (h : Follows p w v) (e : Event) : Follows p (w.emit (e.after p)) (v.emit e) :=
  { h with
    record := by
      have := h.record
      simp only [ownRecord, World.emit, List.filter_cons, Event.isOwn_after] at this ⊢
      cases e.isOwn <;> simp [this, h.now] }

theorem note (h : Follows p w v) (n : Note) : Follows p (w.note (n.after p)) (v.note n) :=
  h.emit (.note n)

/-- Entries that are met, and what is left of both agendas. -/
theorem matches_met (h : Follows p w v) {ds es ds' es' : List Due}
    (hds : Due.present p.children ds = es.map (Due.after p))
    (hds' : Due.present p.children ds' = es'.map (Due.after p)) (sorted : Due.Sorted ds') :
    Matches p (ds.foldl meet (w.withAgenda ds')) (es.foldl meet (v.withAgenda es')) := by
  have hleft : Matches p (w.withAgenda ds') (v.withAgenda es') :=
    { h with
      agenda := hds'
      sorted := sorted }
  exact hleft.foldl_meet hds

theorem advanceTo (h : Follows p w v) (t : Nat) :
    Follows p (w.advanceTo (t + p.time)) (v.advanceTo t) := by
  obtain ⟨hup, hbeyond⟩ := h.sorted.filter_upTo (fun d => !d.what.isPast p.children) (t + p.time)
  obtain ⟨hup', hbeyond'⟩ := Due.upTo_after p t v.agenda
  have hagenda := h.agenda
  unfold Due.present at hagenda
  rw [hagenda] at hup hbeyond
  have hmet := h.matches_met (hup.symm.trans hup') (hbeyond.symm.trans hbeyond')
    (h.sorted.beyond (t + p.time))
  have hnow : (w.advanceTo (t + p.time)).now = (v.advanceTo t).now + p.time := by
    rw [advanceTo_now, advanceTo_now, h.now]
    omega
  refine ⟨?_, hnow, h.timely.advanceTo h.sorted _⟩
  rw [advanceTo_eq, advanceTo_eq]
  exact hmet.withClock _ _

/-- Where nothing is due but to children of earlier cycles, only the clock goes on. -/
theorem linger (h : Follows p w v) {t : Nat} (ht : ∀ d ∈ v.agenda, t < d.time + p.time) :
    ∃ u, v.MayLinger u ∧ u + p.time = max w.now t ∧ Follows p (w.advanceTo t) (v.withClock u) := by
  have hall : ∀ d ∈ Due.present p.children w.agenda, t < d.time := by
    rw [h.agenda]
    intro d hd
    obtain ⟨e, he, rfl⟩ := List.mem_map.1 hd
    exact ht e he
  obtain ⟨hup, hbeyond⟩ := h.sorted.filter_upTo (fun d => !d.what.isPast p.children) t
  have hnone : Due.present p.children (Due.upTo t w.agenda) = ([] : List Due).map (Due.after p) :=
    hup.symm.trans (Due.upTo_of_lt hall)
  have hleft : Due.present p.children (Due.beyond t w.agenda) = v.agenda.map (Due.after p) :=
    (hbeyond.symm.trans (Due.beyond_of_lt hall)).trans h.agenda
  have hmet := h.matches_met hnone hleft (h.sorted.beyond t)
  have hnow := h.now
  have hclock : max v.now (t - p.time) + p.time = max w.now t := by omega
  refine ⟨max v.now (t - p.time), ?_, hclock, ?_⟩
  · by_cases hu : t - p.time ≤ v.now
    · exact .inl (by omega)
    · refine .inr ⟨by omega, fun d hd => ?_⟩
      have := ht d (List.mem_of_mem_head? hd)
      omega
  · refine ⟨?_, (w.advanceTo_now t).trans hclock.symm, h.timely.advanceTo h.sorted t⟩
    rw [advanceTo_eq]
    exact hmet.withClock _ _

theorem schedule (h : Follows p w v) {ds es : List Due} (hds : ds = es.map (Due.after p))
    (timely : ∀ d ∈ ds, w.now < d.time ∨ d.what.isPast w.children.length = true) :
    Follows p (w.schedule ds) (v.schedule es) :=
  { h with
    agenda := by
      have hfilter := h.sorted.filter_insertAll (fun d => !d.what.isPast p.children) ds
      have hself := Due.present_after p es
      have hagenda := h.agenda
      rw [← hds] at hself
      unfold Due.present at hself hagenda ⊢
      rw [World.schedule, hfilter, hself, hagenda, hds, Due.insertAll_after]
      rfl
    sorted := h.sorted.insertAll _
    timely := h.timely.schedule timely }

theorem updateChild (h : Follows p w v) (i : Nat) (f : Child → Child) :
    Follows p (w.updateChild (i + p.children) f) (v.updateChild i f) :=
  ⟨h.toMatches.updateChild i f, h.now, h.timely.updateChild _ f⟩

theorem addChild (h : Follows p w v) (c : Option Child) :
    Follows p { w with children := w.children ++ [c] } { v with children := v.children ++ [c] } :=
  { h with
    timely := fun d hd hle => by
      rw [List.length_append]
      exact Occurrence.isPast_mono (h.timely d hd hle) (Nat.le_add_right _ _)
    spawned := by simp [h.spawned]; omega
    child := fun i => by
      have := h.child i
      simp only [child?, List.getElem?_append, h.spawned] at this ⊢
      by_cases hi : i < v.children.length
      · simp [hi, this]
      · have hsub : i + p.children - (v.children.length + p.children) = i - v.children.length := by
          omega
        simp [hi, hsub] }

theorem latchFired (h : Follows p w v) (i : Nat) :
    w.latchFired (i + p.children) = v.latchFired i := by
  rw [World.latchFired, World.latchFired, h.child]

theorem visibleExit (h : Follows p w v) (i : Nat) :
    w.visibleExit (i + p.children) = v.visibleExit i := by
  rw [World.visibleExit, World.visibleExit, h.child]

theorem publishedExit (h : Follows p w v) (i : Nat) :
    w.publishedExit (i + p.children) = v.publishedExit i := by
  rw [World.publishedExit, World.publishedExit, h.child]

theorem receive (h : Follows p w v) : Agree p w.receive v.receive := by
  unfold World.receive
  rw [h.queue, h.handleHeld]
  split
  · exact .mk _ { h with queue := rfl, handleHeld := rfl }
  · split <;> exact .mk _ h

theorem spawn (h : Follows p w v) (l : Launch) :
    Follows p (w.spawn l).1 (v.spawn l).1 ∧
      (w.spawn l).2 = (v.spawn l).2.map (· + p.children) := by
  have hspawn : Follows p (w.emit (.spawn w.children.length l))
      (v.emit (.spawn v.children.length l)) := by
    rw [h.spawned]
    exact h.emit (.spawn v.children.length l)
  have hrest : Follows p
      { w.emit (.spawn w.children.length l) with
        childScripts := (nextOf .inert w.childScripts).2 }
      { v.emit (.spawn v.children.length l) with
        childScripts := (nextOf .inert v.childScripts).2 } :=
    { hspawn with childScripts := by rw [h.childScripts] }
  unfold World.spawn
  dsimp only
  rw [h.childScripts] at hrest ⊢
  generalize nextOf ChildScript.inert v.childScripts = next at hrest ⊢
  split
  · exact ⟨hrest.addChild none, rfl⟩
  · refine ⟨?_, by rw [h.spawned]; rfl⟩
    refine (hrest.addChild _).schedule ?_ fun d hd => .inl ?_
    · have hnow := h.now
      rw [List.map_append]
      congr 1
      · split
        · simp [Due.after, Occurrence.after, Occurrence.mapChild, h.spawned, hnow]; omega
        · rfl
      · split
        · simp [Due.after, Occurrence.after, Occurrence.mapChild, h.spawned, hnow]; omega
        · rfl
    · rcases List.mem_append.1 hd with hd | hd <;> split at hd
      · rw [List.mem_singleton.1 hd]
        exact now_lt_sleep _ _
      · cases hd
      · rw [List.mem_singleton.1 hd]
        exact now_lt_sleep _ _
      · cases hd

theorem attachReaders (h : Follows p w v) (i : Nat) (markers : List String) :
    Follows p (w.attachReaders (i + p.children) markers) (v.attachReaders i markers) := by
  unfold World.attachReaders
  rw [h.child]
  split
  · exact h
  · next c hc =>
    have hknown : i + p.children < w.children.length := by
      rw [h.spawned]
      exact Nat.add_lt_add_right (lt_of_child? hc) _
    refine (h.updateChild i _).schedule ?_ fun d hd => .inr ?_
    · rw [List.map_append, ← linesDue_after, ← linesDue_after]
      simp only [updateChild_now, h.now]
    · rw [show (w.updateChild (i + p.children) _).children.length = w.children.length from
        List.length_modify ..]
      rcases List.mem_append.1 hd with hd | hd <;> obtain ⟨l, -, rfl⟩ := List.mem_map.1 hd <;>
        exact decide_eq_true hknown

theorem signal (h : Follows p w v) (i : Nat) (s : TerminationSignal) :
    Agree p (w.signal (i + p.children) s) (v.signal i s) := by
  have hs : Follows p (w.emit (.signal (i + p.children) s)) (v.emit (.signal i s)) :=
    h.emit (.signal i s)
  unfold World.signal
  dsimp only
  rw [show (w.emit (.signal (i + p.children) s)).child? (i + p.children) =
    (v.emit (.signal i s)).child? i from h.child i]
  refine .mk _ ?_
  split
  · exact hs
  · exact hs.updateChild i _
  · next t ht _ =>
    refine hs.schedule ?_ fun d hd => .inl ?_
    · have hnow := h.now
      simp [Due.after, Occurrence.after, Occurrence.mapChild, hnow]; omega
    · rw [List.mem_singleton.1 hd]
      obtain ⟨t, rfl⟩ := Nat.exists_eq_succ_of_ne_zero ht
      exact now_lt_sleep _ _

theorem startCheck (h : Follows p w v) : Follows p w.startCheck.1 v.startCheck.1 ∧
    w.startCheck.2 = v.startCheck.2.map fun a => (a.1 + p.time, a.2) := by
  have hn : w.checks + 1 = v.checks + 1 + p.checks := by rw [h.checks]; omega
  have hcall : Follows p (w.emit (.healthCall (w.checks + 1)))
      (v.emit (.healthCall (v.checks + 1))) := by
    rw [hn]
    exact h.emit (.healthCall (v.checks + 1))
  have hrest : Follows p
      { w.emit (.healthCall (w.checks + 1)) with
        checks := w.checks + 1, health := (nextOf .silent w.health).2 }
      { v.emit (.healthCall (v.checks + 1)) with
        checks := v.checks + 1, health := (nextOf .silent v.health).2 } :=
    { hcall with
      checks := hn
      health := by rw [h.health] }
  have hnow := h.now
  unfold World.startCheck
  dsimp only
  rw [h.health] at hrest ⊢
  split
  · exact ⟨hrest, rfl⟩
  · refine ⟨hrest, ?_⟩
    simp [hnow]; omega

theorem openWindow (h : Follows p w v) (url : String) :
    Agree p (w.openWindow url) (v.openWindow url) := by
  have hrest : Follows p
      { w.emit (.openWindow url) with surface := (nextOf .ok w.surface).2 }
      { v.emit (.openWindow url) with surface := (nextOf .ok v.surface).2 } :=
    { h.emit (.openWindow url) with surface := by rw [h.surface] }
  unfold World.openWindow
  dsimp only
  rw [h.surface] at hrest ⊢
  split <;> exact .mk _ hrest

theorem showDialog (h : Follows p w v) (d : Dialog) :
    Agree p (w.showDialog d) (v.showDialog d) := by
  have hd := h.emit (.dialog d)
  have hrest (rest : List (Option String)) : Follows p
      { w.emit (.dialog d) with panics := rest } { v.emit (.dialog d) with panics := rest } :=
    { hd with panics := rfl }
  unfold World.showDialog
  dsimp only
  rw [show (w.emit (.dialog d)).panics = (v.emit (.dialog d)).panics from h.panics]
  split
  · exact .mk _ ((hrest _).note (.uncaughtPanic _))
  · exact .mk _ (hrest _)
  · exact .mk _ hd

/-- Either the next entry of both agendas is the same, or only children of earlier cycles are
concerned for now. -/
theorem next (h : Follows p w v) {d : Due} {rest : List Due} (hw : w.agenda = d :: rest) :
    (∃ e more, v.agenda = e :: more ∧ d.time = e.time + p.time) ∨
      ∀ e ∈ v.agenda, d.time < e.time + p.time := by
  have hle : ∀ e ∈ v.agenda, d.time ≤ e.time + p.time := by
    intro e he
    have hmem : e.after p ∈ w.agenda := by
      refine List.mem_of_mem_filter (p := fun d => !d.what.isPast p.children) ?_
      rw [show w.agenda.filter _ = v.agenda.map (Due.after p) from h.agenda]
      exact List.mem_map_of_mem he
    have hsorted := h.sorted
    rw [hw] at hmem hsorted
    rcases List.mem_cons.1 hmem with heq | hmem
    · rw [← heq]
      exact Nat.le_refl _
    · exact (List.pairwise_cons.1 hsorted).1 _ hmem
  cases hv : v.agenda with
  | nil => exact .inr fun e he => absurd he List.not_mem_nil
  | cons e more =>
    rw [hv] at hle
    by_cases heq : d.time = e.time + p.time
    · exact .inl ⟨e, more, rfl, heq⟩
    · have hsorted : Due.Sorted (v.agenda.map (Due.after p)) := by
        rw [← h.agenda]
        exact h.sorted.filter _
      rw [hv, List.map_cons] at hsorted
      have hlt : d.time < (e.after p).time := by
        have := hle e List.mem_cons_self
        change d.time < e.time + p.time
        omega
      refine .inr fun x hx => hsorted.lt_of_lt_head hlt (x.after p) ?_
      rw [← List.map_cons]
      exact List.mem_map_of_mem hx

theorem agenda_nil (h : Follows p w v) (hw : w.agenda = []) : v.agenda = [] := by
  have := h.agenda
  rw [hw] at this
  exact List.map_eq_nil_iff.1 this.symm

end Follows

theorem awaitExit_of_nil {i deadline : Nat} (hx : v.visibleExit i = none) (hv : v.agenda = []) :
    v.awaitExit i deadline = (v.advanceTo deadline, none) := by
  rw [World.awaitExit, hx]
  dsimp only
  split
  · rfl
  · next ha => rw [hv] at ha; cases ha

theorem awaitExit_of_cons {i deadline : Nat} {d : Due} {rest : List Due}
    (hx : v.visibleExit i = none) (hv : v.agenda = d :: rest) :
    v.awaitExit i deadline =
      if d.time ≤ deadline then (v.advanceTo d.time).awaitExit i deadline
      else (v.advanceTo deadline, none) := by
  rw [World.awaitExit, hx]
  dsimp only
  split
  · next ha => rw [hv] at ha; cases ha
  · next ha => rw [hv] at ha; cases ha; rfl

theorem MayLinger.awaitExit {u : Nat} (h : v.MayLinger u) {i deadline : Nat}
    (hx : v.visibleExit i = none) (hu : u ≤ deadline) :
    (v.withClock u).awaitExit i deadline = v.awaitExit i deadline := by
  have hx' : (v.withClock u).visibleExit i = none := hx
  cases hv : v.agenda with
  | nil => rw [awaitExit_of_nil hx hv, awaitExit_of_nil hx' hv, h.advanceTo hu]
  | cons d rest =>
    rw [awaitExit_of_cons hx hv, awaitExit_of_cons hx' hv, h.advanceTo hu]
    rcases h with rfl | ⟨hlt, hd⟩
    · rfl
    · have hle : u ≤ d.time := Nat.le_of_lt (hd d (by rw [hv]; rfl))
      rw [MayLinger.advanceTo (.inr ⟨hlt, hd⟩) hle]

/-- Waiting for an exit ends in the same way, and equally late. -/
theorem Follows.awaitExit (h : Follows p w v) (i : Nat) {deadline : Nat} (hn : v.now ≤ deadline) :
    Agree p (w.awaitExit (i + p.children) (deadline + p.time)) (v.awaitExit i deadline) := by
  generalize hj : i + p.children = j
  generalize hlate : deadline + p.time = late
  fun_induction World.awaitExit w j late generalizing v with
  | case1 w r hx =>
    rw [← hj, h.visibleExit] at hx
    rw [awaitExit_of_visible v hx]
    exact .mk _ h
  | case2 w hx hw =>
    rw [← hj, h.visibleExit] at hx
    rw [awaitExit_of_nil hx (h.agenda_nil hw), ← hlate]
    exact .mk _ (h.advanceTo deadline)
  | case3 w hx d rest hw hle ih =>
    rw [← hj, h.visibleExit] at hx
    obtain ⟨e, more, hv, htime⟩ | hpast := h.next hw
    · rw [awaitExit_of_cons hx hv, if_pos (by omega)]
      refine ih ?_ ?_
      · rw [htime]
        exact h.advanceTo e.time
      · rw [advanceTo_now]; omega
    · obtain ⟨u, hmay, hu, hfollows⟩ := h.linger hpast
      have hnow := h.now
      have hdeadline : u ≤ deadline := by omega
      rw [← hmay.awaitExit hx hdeadline]
      exact ih hfollows hdeadline
  | case4 w hx d rest hw hlt =>
    rw [← hj, h.visibleExit] at hx
    have hlate' : (v.awaitExit i deadline) = (v.advanceTo deadline, none) := by
      cases hv : v.agenda with
      | nil => exact awaitExit_of_nil hx hv
      | cons e more =>
        rw [awaitExit_of_cons hx hv, if_neg]
        obtain ⟨e', more', hv', htime⟩ | hpast := h.next hw
        · rw [hv] at hv'
          cases hv'
          omega
        · have := hpast e (by rw [hv]; exact List.mem_cons_self)
          omega
    rw [hlate', ← hlate]
    exact .mk _ (h.advanceTo deadline)

end World
end DesktopHost
