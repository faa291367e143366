import DesktopHost.World.Lemmas
import Mathlib.Data.ENat.Lattice

/-!
The world left to itself: what `advanceTo` will bring, instant by instant, when nobody acts in it.
-/

set_option autoImplicit false

namespace DesktopHost

namespace Due

def upTo (t : Nat) (agenda : List Due) : List Due := agenda.takeWhile fun d => d.time ≤ t

def beyond (t : Nat) (agenda : List Due) : List Due := agenda.dropWhile fun d => d.time ≤ t

theorem upTo_split {a b : Nat} (h : a ≤ b) (agenda : List Due) :
    upTo b agenda = upTo a agenda ++ upTo b (beyond a agenda) := by
  induction agenda with
  | nil => rfl
  | cons d rest ih =>
    by_cases ha : d.time ≤ a
    · have hb : d.time ≤ b := by omega
      simp only [upTo, beyond, List.takeWhile_cons, List.dropWhile_cons, ha, hb, decide_true,
        if_true, List.cons_append] at ih ⊢
      rw [ih]
    · simp [upTo, beyond, List.takeWhile_cons, ha]

theorem beyond_beyond {a b : Nat} (h : a ≤ b) (agenda : List Due) :
    beyond b (beyond a agenda) = beyond b agenda := by
  induction agenda with
  | nil => rfl
  | cons d rest ih =>
    by_cases ha : d.time ≤ a
    · have hb : d.time ≤ b := by omega
      simp only [beyond, List.dropWhile_cons, ha, hb, decide_true, if_true] at ih ⊢
      exact ih
    · simp [beyond, List.dropWhile_cons, ha]

theorem upTo_beyond_of_le {a b : Nat} (h : b ≤ a) (agenda : List Due) :
    upTo b (beyond a agenda) = [] := by
  induction agenda with
  | nil => rfl
  | cons d rest ih =>
    by_cases ha : d.time ≤ a
    · simp only [beyond, List.dropWhile_cons, ha, decide_true, if_true] at ih ⊢
      exact ih
    · have hb : ¬d.time ≤ b := by omega
      simp [upTo, beyond, ha, hb]

theorem upTo_beyond_subset (a b : Nat) (agenda : List Due) :
    upTo b (beyond a agenda) ⊆ upTo b agenda := by
  rcases Nat.le_total a b with h | h
  · rw [upTo_split h agenda]
    exact List.subset_append_right _ _
  · rw [upTo_beyond_of_le h]
    exact List.nil_subset _

theorem time_of_mem_upTo {t : Nat} {agenda : List Due} {d : Due} (h : d ∈ upTo t agenda) :
    d.time ≤ t := World.mem_takeWhile_time h

theorem lt_head_of_beyond {t : Nat} {agenda rest : List Due} {d : Due}
    (h : beyond t agenda = d :: rest) : t < d.time := by
  have hd := List.head?_dropWhile_not (fun e : Due => decide (e.time ≤ t)) agenda
  rw [show agenda.dropWhile (fun e => decide (e.time ≤ t)) = d :: rest from h] at hd
  simpa using hd

/-- An entry that is put on the agenda stands behind none that is due later. -/
theorem mem_upTo_insert (t : Nat) (x d : Due) (agenda : List Due) :
    x ∈ upTo t (insert d agenda) ↔ x ∈ upTo t agenda ∨ x = d ∧ d.time ≤ t := by
  induction agenda with
  | nil => by_cases hd : d.time ≤ t <;> simp [upTo, insert, hd]
  | cons e rest ih =>
    unfold insert
    by_cases hlt : d.time < e.time
    · rw [if_pos hlt]
      by_cases hd : d.time ≤ t
      · simp only [upTo, List.takeWhile_cons, hd, decide_true, if_true, List.mem_cons, and_true]
        exact or_comm
      · have he : ¬e.time ≤ t := by omega
        simp [upTo, hd, he]
    · rw [if_neg hlt]
      by_cases he : e.time ≤ t
      · simp only [upTo, List.takeWhile_cons, he, decide_true, if_true, List.mem_cons] at ih ⊢
        rw [ih, or_assoc]
      · have hd : ¬d.time ≤ t := by omega
        simp [upTo, hd, he]

theorem mem_upTo_insertAll (t : Nat) (x : Due) (ds agenda : List Due) :
    x ∈ upTo t (insertAll ds agenda) ↔ x ∈ upTo t agenda ∨ x ∈ ds ∧ x.time ≤ t := by
  induction ds generalizing agenda with
  | nil => simp [insertAll]
  | cons d rest ih =>
    rw [show insertAll (d :: rest) agenda = insertAll rest (insert d agenda) from rfl, ih,
      mem_upTo_insert, or_assoc]
    refine or_congr_right ?_
    rw [List.mem_cons]
    constructor
    · rintro (⟨rfl, h⟩ | ⟨h, ht⟩)
      · exact ⟨.inl rfl, h⟩
      · exact ⟨.inr h, ht⟩
    · rintro ⟨rfl | h, ht⟩
      · exact .inl ⟨rfl, ht⟩
      · exact .inr ⟨h, ht⟩

/-- What the entry does to child `i`. -/
def touch (i : Nat) (d : Due) (c : Child) : Child :=
  match d.what with
  | .exit j code | .ownExit j code => if j = i then c.publish code else c
  | .unwatch j => if j = i then { c with watched := false } else c
  | .line j .stdout text => if j = i then { c with latch := (c.latch.observe text).1 } else c
  | _ => c

/-- The entry is a line with a marker on the standard output of child `i`. -/
def signals (i : Nat) (markers : List String) (d : Due) : Bool :=
  match d.what with
  | .line j .stdout text => decide (j = i) && lineSignalsReady markers text
  | _ => false

/-- The command that the entry puts on the queue. -/
def sent (held listening : Bool) (d : Due) : List Command :=
  match d.what with
  | .command c => if held && listening then [c] else []
  | _ => []

/-- Whether someone can still send a command afterwards. -/
def leavesHeld (held : Bool) (d : Due) : Bool :=
  match d.what with
  | .dropHandle => false
  | _ => held

def isLine (d : Due) : Bool :=
  match d.what with
  | .line .. => true
  | _ => false

end Due

namespace Child

/-- To publish an exit leaves all else of a child alone. -/
theorem publish_frame (c : Child) (code : Option Int32) : (c.publish code).latch = c.latch ∧
    (c.publish code).script = c.script ∧ (c.publish code).pid = c.pid := by
  unfold publish
  split
  · exact ⟨rfl, rfl, rfl⟩
  · split <;> exact ⟨rfl, rfl, rfl⟩

theorem publish_latch (c : Child) (code : Option Int32) : (c.publish code).latch = c.latch :=
  (c.publish_frame code).1

theorem touch_latch (c : Child) (i : Nat) (d : Due) :
    (d.touch i c).latch.markers = c.latch.markers ∧
      (d.touch i c).latch.fired = (c.latch.fired || d.signals i c.latch.markers) := by
  obtain ⟨time, what⟩ := d
  unfold Due.touch Due.signals
  cases what with
  | exit j code => dsimp only; split <;> simp [publish_latch]
  | ownExit j code => dsimp only; split <;> simp [publish_latch]
  | unwatch j => dsimp only; split <;> simp
  | line j stream text =>
    cases stream with
    | stderr => simp
    | stdout => dsimp only; split <;> simp [Latch.observe_fired, *]
  | _ => simp

theorem foldl_touch_latch (i : Nat) (ds : List Due) (c : Child) :
    (ds.foldl (fun c d => d.touch i c) c).latch.markers = c.latch.markers ∧
      (ds.foldl (fun c d => d.touch i c) c).latch.fired =
        (c.latch.fired || ds.any (·.signals i c.latch.markers)) := by
  induction ds generalizing c with
  | nil => simp
  | cons d rest ih =>
    obtain ⟨hm, hf⟩ := c.touch_latch i d
    obtain ⟨hm', hf'⟩ := ih (d.touch i c)
    rw [List.foldl_cons, hm', hf', hm, hf, List.any_cons, Bool.or_assoc]
    exact ⟨rfl, rfl⟩

theorem visibleExit_isSome (c : Child) :
    c.visibleExit.isSome = (c.published.isSome || !c.watched) := by
  unfold visibleExit
  cases c.published with
  | some r => rfl
  | none => cases c.watched <;> rfl

theorem publish_visibleExit (c : Child) (code : Option Int32) :
    (c.publish code).visibleExit.isSome = true := by
  rw [visibleExit_isSome]
  unfold publish
  cases hp : c.published with
  | some r => simp [hp]
  | none =>
    cases hw : c.watched with
    | false => simp [hp, hw]
    | true => simp

/-- An exit that can be seen goes on to be seen. -/
theorem touch_visibleExit (c : Child) (i : Nat) (d : Due) (h : c.visibleExit.isSome = true) :
    (d.touch i c).visibleExit.isSome = true := by
  obtain ⟨time, what⟩ := d
  unfold Due.touch
  cases what with
  | exit j code => dsimp only; split; exacts [c.publish_visibleExit code, h]
  | ownExit j code => dsimp only; split; exacts [c.publish_visibleExit code, h]
  | unwatch j =>
    dsimp only
    split
    · rw [visibleExit_isSome]
      simp
    · exact h
  | line j stream text =>
    cases stream with
    | stderr => exact h
    | stdout => dsimp only; split <;> exact h
  | _ => exact h

theorem touch_line (c : Child) (i : Nat) {d : Due} (h : d.isLine = true) :
    (d.touch i c).visibleExit = c.visibleExit := by
  obtain ⟨time, what⟩ := d
  cases what with
  | line j stream text =>
    unfold Due.touch
    cases stream with
    | stderr => rfl
    | stdout => dsimp only; split <;> rfl
  | _ => cases h

end Child

def Note.isDeed : Note → Bool
  | .cycleBegun _ | .quitRequested _ => true
  | _ => false

/-- What a session does to the world around it, and where it begins a cycle or a quit. -/
def Event.isDeed : Event → Bool
  | .spawn .. | .signal .. | .healthCall _ | .openWindow _ | .dialog _ => true
  | .note n => n.isDeed
  | .command .. | .exit .. | .line .. => false

namespace World

def withAgenda (w : World) (agenda : List Due) : World := { w with agenda := agenda }

def withClock (w : World) (t : Nat) : World := { w with now := t }

variable (w : World)

theorem advanceTo_eq (t : Nat) : w.advanceTo t =
    ((Due.upTo t w.agenda).foldl meet (w.withAgenda (Due.beyond t w.agenda))).withClock
      (max w.now t) := by
  rw [← w.advanceTo_now t]
  rfl

/-- What nothing changes that comes due stays as it is while time passes. -/
theorem advanceTo_keeps {α : Type} (f : World → α)
    (agenda : ∀ w agenda, f (w.withAgenda agenda) = f w) (clock : ∀ w t, f (w.withClock t) = f w)
    (meet : ∀ w d, f (w.meet d) = f w) (t : Nat) : f (w.advanceTo t) = f w := by
  have hfold (ds : List Due) (w : World) : f (ds.foldl World.meet w) = f w := by
    induction ds generalizing w with
    | nil => rfl
    | cons d rest ih => rw [List.foldl_cons, ih, meet]
  rw [advanceTo_eq, clock, hfold, agenda]

/-- What is due finds the agenda as it leaves it. -/
theorem occur_withAgenda (agenda : List Due) (o : Occurrence) :
    (w.withAgenda agenda).occur o = (w.occur o).withAgenda agenda := by
  cases o with
  | command c =>
    cases hh : w.handleHeld <;> cases hl : w.listening <;>
      simp [occur, sendCommand, withAgenda, emit, hh, hl]
  | line i stream text =>
    simp only [occur, readLine]
    rw [show (w.withAgenda agenda).child? i = w.child? i from rfl]
    cases w.child? i with
    | none => rfl
    | some c =>
      cases stream with
      | stderr => rfl
      | stdout => dsimp only; split <;> rfl
  | _ => rfl

theorem foldl_meet_withAgenda (agenda : List Due) (ds : List Due) :
    ds.foldl meet (w.withAgenda agenda) = (ds.foldl meet w).withAgenda agenda := by
  induction ds generalizing w with
  | nil => rfl
  | cons d rest ih =>
    have hd : (w.withAgenda agenda).meet d = (w.meet d).withAgenda agenda :=
      occur_withAgenda (w.withClock (max w.now d.time)) agenda d.what
    rw [List.foldl_cons, List.foldl_cons, hd, ih]

/-- Having waited until `a` does not show any more once something due no earlier is met. -/
theorem foldl_meet_withClock {a b : Nat} {ds : List Due} (h : ∀ d ∈ ds.head?, a ≤ d.time) :
    (ds.foldl meet (w.withClock (max w.now a))).withClock b = (ds.foldl meet w).withClock b := by
  cases ds with
  | nil => rfl
  | cons d rest =>
    have ht := h d rfl
    have hd : (w.withClock (max w.now a)).meet d = w.meet d := by
      have hm : max (max w.now a) d.time = max w.now d.time := by omega
      simp only [meet, withClock, hm]
    rw [List.foldl_cons, List.foldl_cons, hd]

theorem advanceTo_advanceTo {a b : Nat} (h : a ≤ b) :
    (w.advanceTo a).advanceTo b = w.advanceTo b := by
  -- `v` has met what is due until `a`, and has the agenda that is left after `b`
  let v := (Due.upTo a w.agenda).foldl meet (w.withAgenda (Due.beyond b w.agenda))
  have hvn : v.now ≤ max w.now a := foldl_meet_now_le (w.withAgenda (Due.beyond b w.agenda))
    (Due.upTo a w.agenda) a fun _ => Due.time_of_mem_upTo
  have hwv : w.now ≤ v.now := le_foldl_meet_now (w.withAgenda (Due.beyond b w.agenda))
    (Due.upTo a w.agenda)
  have hagenda : (w.advanceTo a).agenda = Due.beyond a w.agenda := w.advanceTo_agenda a
  have hfirst : (w.advanceTo a).withAgenda (Due.beyond b w.agenda) =
      v.withClock (max v.now a) := by
    have hnow : max v.now a = max w.now a := by omega
    have hv : v = ((Due.upTo a w.agenda).foldl meet w).withAgenda (Due.beyond b w.agenda) :=
      w.foldl_meet_withAgenda _ _
    rw [hnow, advanceTo_eq, foldl_meet_withAgenda, hv]
    rfl
  have hhead : ∀ d ∈ (Due.upTo b (Due.beyond a w.agenda)).head?, a < d.time := by
    intro d hd
    cases hb : Due.beyond a w.agenda with
    | nil => rw [hb] at hd; cases hd
    | cons e rest =>
      have he := Due.lt_head_of_beyond hb
      rw [hb, Due.upTo, List.takeWhile_cons] at hd
      split at hd
      · cases hd; exact he
      · cases hd
  calc (w.advanceTo a).advanceTo b
      = ((Due.upTo b (Due.beyond a w.agenda)).foldl meet
          ((w.advanceTo a).withAgenda (Due.beyond b w.agenda))).withClock (max w.now b) := by
        have hnow : max (w.advanceTo a).now b = max w.now b := by rw [advanceTo_now]; omega
        rw [advanceTo_eq (w.advanceTo a), hagenda, Due.beyond_beyond h, hnow]
    _ = ((Due.upTo b (Due.beyond a w.agenda)).foldl meet v).withClock (max w.now b) := by
        rw [hfirst, foldl_meet_withClock v fun d hd => Nat.le_of_lt (hhead d hd)]
    _ = w.advanceTo b := by
        rw [advanceTo_eq w b, Due.upTo_split h w.agenda, List.foldl_append]

/-- Before anything is due, waiting moves nothing but the clock. -/
theorem advanceTo_of_upTo_nil {t : Nat} (h : Due.upTo t w.agenda = []) :
    w.advanceTo t = w.withClock (max w.now t) := by
  have hb : Due.beyond t w.agenda = w.agenda := by
    have hsplit := List.takeWhile_append_dropWhile (p := fun d : Due => decide (d.time ≤ t))
      (l := w.agenda)
    rwa [show w.agenda.takeWhile (fun d => decide (d.time ≤ t)) = [] from h,
      List.nil_append] at hsplit
  rw [advanceTo_eq, h, hb]
  rfl

theorem upTo_of_lt_next {t : Nat} (h : ∀ u, w.nextDue? = some u → t < u) :
    Due.upTo t w.agenda = [] := by
  cases ha : w.agenda with
  | nil => rfl
  | cons d rest =>
    have ht : t < d.time := h d.time (by rw [nextDue?, ha]; rfl)
    simp [Due.upTo, ht]

def deeds (w : World) : List (Nat × Event) := w.trace.filter fun e => e.2.isDeed

theorem deeds_emit {e : Event} (h : e.isDeed = false) : (w.emit e).deeds = w.deeds :=
  List.filter_cons_of_neg (by rw [h]; exact Bool.false_ne_true)

theorem deeds_note {n : Note} (h : n.isDeed = false) : (w.note n).deeds = w.deeds :=
  w.deeds_emit (e := .note n) h

theorem deeds_occur (o : Occurrence) : (w.occur o).deeds = w.deeds := by
  cases o with
  | command c =>
    have hs (sent : Option Bool) : (w.emit (.command c sent)).deeds = w.deeds := w.deeds_emit rfl
    simp only [occur, sendCommand]
    split
    · split
      · exact hs (some true)
      · exact hs (some false)
    · exact hs none
  | exit i code => exact w.deeds_emit rfl
  | line i stream text =>
    simp only [occur, readLine]
    split
    · rfl
    · next c _ =>
      have hl : (w.emit (.line c.pid stream text)).deeds = w.deeds := w.deeds_emit rfl
      cases stream with
      | stderr => exact hl
      | stdout =>
        dsimp only
        split
        · exact (deeds_note _ rfl).trans hl
        · exact hl
  | _ => rfl

theorem deeds_advanceTo (t : Nat) : (w.advanceTo t).deeds = w.deeds :=
  w.advanceTo_keeps deeds (fun _ _ => rfl) (fun _ _ => rfl)
    (fun w d => deeds_occur (w.withClock (max w.now d.time)) d.what) t

theorem child?_updateChild (i j : Nat) (f : Child → Child) :
    (w.updateChild j f).child? i = if j = i then (w.child? i).map f else w.child? i := by
  simp only [child?, updateChild, List.getElem?_modify]
  by_cases h : j = i
  · subst h
    simp only [if_true]
    cases w.children[j]? with
    | none => rfl
    | some c => rfl
  · simp only [if_neg h]
    cases w.children[i]? <;> rfl

theorem child?_readLine (i j : Nat) (stream : StreamKind) (text : String) :
    (w.readLine j stream text).child? i =
      (w.child? i).map fun c => Due.touch i ⟨0, .line j stream text⟩ c := by
  have hid : (w.child? i).map (fun c => c) = w.child? i := Option.map_id'
  unfold readLine
  cases hj : w.child? j with
  | none =>
    dsimp only [Due.touch]
    cases stream with
    | stderr => exact hid.symm
    | stdout =>
      by_cases h : j = i
      · rw [← h, hj]; rfl
      · simp only [if_neg h]; exact hid.symm
  | some d =>
    cases stream with
    | stderr => exact hid.symm
    | stdout =>
      have hu := child?_updateChild (w.emit (.line d.pid .stdout text)) i j
        fun c => { c with latch := (d.latch.observe text).1 }
      have he : (w.emit (.line d.pid .stdout text)).child? i = w.child? i := rfl
      dsimp only [Due.touch]
      rw [he] at hu
      refine Eq.trans (b := ((w.emit (.line d.pid .stdout text)).updateChild j fun c =>
        { c with latch := (d.latch.observe text).1 }).child? i) ?_ ?_
      · split <;> rfl
      · rw [hu]
        by_cases h : j = i
        · rw [← h, hj]; simp
        · simp only [if_neg h]; exact hid.symm

theorem child?_meet (i : Nat) (d : Due) :
    (w.meet d).child? i = (w.child? i).map (d.touch i) := by
  obtain ⟨time, what⟩ := d
  have hid : (w.child? i).map (fun c => c) = w.child? i := Option.map_id'
  have hif (j : Nat) (f : Child → Child) :
      (w.updateChild j f).child? i = (w.child? i).map fun c => if j = i then f c else c := by
    rw [child?_updateChild]
    by_cases h : j = i
    · simp only [if_pos h]
    · simp only [if_neg h]; exact hid.symm
  cases what with
  | command c =>
    refine Eq.trans ?_ hid.symm
    simp only [meet, occur, sendCommand]
    split
    · split <;> rfl
    · rfl
  | line j stream text => exact child?_readLine (w.withClock (max w.now time)) i j stream text
  | exit j code => exact hif j (·.publish code)
  | ownExit j code => exact hif j (·.publish code)
  | unwatch j => exact hif j _
  | dropHandle => exact hid.symm
  | nothing => exact hid.symm

/-- The future of a child, as it stands on the agenda. -/
theorem child?_advanceTo (i t : Nat) : (w.advanceTo t).child? i =
    (w.child? i).map fun c => (Due.upTo t w.agenda).foldl (fun c d => d.touch i c) c := by
  have hfold (ds : List Due) (w : World) : (ds.foldl meet w).child? i =
      (w.child? i).map fun c => ds.foldl (fun c d => d.touch i c) c := by
    induction ds generalizing w with
    | nil => exact Option.map_id'.symm
    | cons d rest ih =>
      rw [List.foldl_cons, ih, child?_meet, Option.map_map]
      rfl
  exact hfold _ (w.withAgenda (Due.beyond t w.agenda))

theorem latchFired_advanceTo {i : Nat} {c : Child} (h : w.child? i = some c) (t : Nat) :
    (w.advanceTo t).latchFired i =
      (c.latch.fired || (Due.upTo t w.agenda).any (·.signals i c.latch.markers)) := by
  unfold latchFired
  rw [child?_advanceTo, h]
  exact (c.foldl_touch_latch i _).2.trans rfl

/-- A latch that has fired stays so. -/
theorem latchFired_mono {i : Nat} (h : w.latchFired i = true) (t : Nat) :
    (w.advanceTo t).latchFired i = true := by
  cases hc : w.child? i with
  | none =>
    rw [latchFired, hc] at h
    cases h
  | some c =>
    have hf : c.latch.fired = true := by rwa [latchFired, hc] at h
    rw [latchFired_advanceTo w hc, hf, Bool.true_or]

theorem visibleExit_advanceTo (i t : Nat) : (w.advanceTo t).visibleExit i =
    (w.child? i).bind fun c =>
      ((Due.upTo t w.agenda).foldl (fun c d => d.touch i c) c).visibleExit := by
  rw [visibleExit, child?_advanceTo, Option.bind_map]
  rfl

theorem visibleExit_mono {i : Nat} (h : (w.visibleExit i).isSome = true) (t : Nat) :
    ((w.advanceTo t).visibleExit i).isSome = true := by
  rw [visibleExit_advanceTo]
  unfold visibleExit at h
  cases hc : w.child? i with
  | none =>
    rw [hc] at h
    cases h
  | some c =>
    rw [hc, Option.bind_some] at h
    rw [Option.bind_some]
    clear hc
    generalize Due.upTo t w.agenda = ds
    induction ds generalizing c with
    | nil => exact h
    | cons d rest ih => exact ih (d.touch i c) (c.touch_visibleExit i d h)

theorem meet_queue (d : Due) :
    (w.meet d).queue = w.queue ++ d.sent w.handleHeld w.listening := by
  obtain ⟨time, what⟩ := d
  cases what with
  | command c =>
    cases hh : w.handleHeld <;> cases hl : w.listening <;>
      simp [meet, occur, sendCommand, Due.sent, hh, hl]
  | line i stream text =>
    exact ((w.withClock (max w.now time)).readLine_frame i stream text).2.2.trans
      (List.append_nil _).symm
  | _ => exact (List.append_nil _).symm

theorem meet_frame (d : Due) : (w.meet d).handleHeld = d.leavesHeld w.handleHeld ∧
    (w.meet d).listening = w.listening ∧ (w.meet d).health = w.health ∧
      (w.meet d).childScripts = w.childScripts := by
  obtain ⟨time, what⟩ := d
  cases what with
  | command c =>
    cases hh : w.handleHeld <;> cases hl : w.listening <;>
      simp [meet, occur, sendCommand, emit, Due.leavesHeld, hh, hl]
  | line i stream text =>
    simp only [meet, occur, readLine]
    split
    · exact ⟨rfl, rfl, rfl, rfl⟩
    · cases stream with
      | stderr => exact ⟨rfl, rfl, rfl, rfl⟩
      | stdout => dsimp only; split <;> exact ⟨rfl, rfl, rfl, rfl⟩
  | _ => exact ⟨rfl, rfl, rfl, rfl⟩

theorem health_advanceTo (t : Nat) : (w.advanceTo t).health = w.health :=
  w.advanceTo_keeps (·.health) (fun _ _ => rfl) (fun _ _ => rfl)
    (fun w d => (w.meet_frame d).2.2.1) t

theorem childScripts_advanceTo (t : Nat) : (w.advanceTo t).childScripts = w.childScripts :=
  w.advanceTo_keeps (·.childScripts) (fun _ _ => rfl) (fun _ _ => rfl)
    (fun w d => (w.meet_frame d).2.2.2) t

theorem listening_advanceTo (t : Nat) : (w.advanceTo t).listening = w.listening :=
  w.advanceTo_keeps (·.listening) (fun _ _ => rfl) (fun _ _ => rfl)
    (fun w d => (w.meet_frame d).2.1) t

/-- The first instant, from now on, at which `p` will hold if nobody acts. -/
noncomputable def firstTime (p : World → Prop) : ℕ∞ :=
  ⨅ (t : ℕ) (_ : w.now ≤ t) (_ : p (w.advanceTo t)), (t : ℕ∞)

theorem now_le_firstTime (p : World → Prop) : (w.now : ℕ∞) ≤ w.firstTime p :=
  le_iInf₂ fun _ ht => le_iInf fun _ => Nat.cast_le.2 ht

theorem firstTime_le {p : World → Prop} {t : Nat} (ht : w.now ≤ t) (h : p (w.advanceTo t)) :
    w.firstTime p ≤ t :=
  iInf₂_le_of_le t ht (iInf_le _ h)

/-- What does not hold before `a` holds first at `a` or later. -/
theorem le_firstTime {p : World → Prop} {a : Nat}
    (h : ∀ t, w.now ≤ t → t < a → ¬p (w.advanceTo t)) : (a : ℕ∞) ≤ w.firstTime p := by
  refine le_iInf₂ fun t ht => le_iInf fun hp => Nat.cast_le.2 ?_
  exact Nat.le_of_not_lt fun hlt => h t ht hlt hp

theorem firstTime_of_advanceTo_now {p : World → Prop} (h : p (w.advanceTo w.now)) :
    w.firstTime p = w.now :=
  le_antisymm (w.firstTime_le le_rfl h) (w.now_le_firstTime p)

theorem now_lt_firstTime {p : World → Prop} (h : ¬p (w.advanceTo w.now)) :
    (w.now : ℕ∞) < w.firstTime p := by
  refine lt_of_lt_of_le (Nat.cast_lt.2 (Nat.lt_succ_self w.now)) (w.le_firstTime fun t ht hlt => ?_)
  rw [show t = w.now by omega]
  exact h

theorem firstTime_congr {v : World} {p q : World → Prop} (hnow : v.now = w.now)
    (h : ∀ t, p (w.advanceTo t) ↔ q (v.advanceTo t)) : w.firstTime p = v.firstTime q := by
  simp only [firstTime, hnow, h]

/-- To wait until `a` does not change the first time of what does not hold before. -/
theorem firstTime_advanceTo {p : World → Prop} {a : Nat}
    (h : ∀ t, w.now ≤ t → t < a → ¬p (w.advanceTo t)) :
    (w.advanceTo a).firstTime p = w.firstTime p := by
  apply le_antisymm
  · refine le_iInf₂ fun t ht => le_iInf fun hp => ?_
    have hat : a ≤ t := Nat.le_of_not_lt fun hlt => h t ht hlt hp
    refine firstTime_le _ ?_ ?_
    · rw [advanceTo_now]; omega
    · rwa [advanceTo_advanceTo w hat]
  · refine le_iInf₂ fun t ht => le_iInf fun hp => ?_
    rw [advanceTo_now] at ht
    rw [advanceTo_advanceTo w (by omega)] at hp
    exact w.firstTime_le (by omega) hp

/-- What holds from `a` on, and not before, holds first at `a`, or now if that is later. -/
theorem firstTime_of_iff {p : World → Prop} {a : Nat}
    (h : ∀ t, w.now ≤ t → (p (w.advanceTo t) ↔ a ≤ t)) :
    w.firstTime p = (max w.now a : ℕ) := by
  apply le_antisymm
  · exact w.firstTime_le (by omega) ((h _ (by omega)).2 (by omega))
  · exact w.le_firstTime fun t ht hlt hp => by
      have := (h t ht).1 hp
      omega

theorem firstTime_of_never {p : World → Prop} (h : ∀ t, w.now ≤ t → ¬p (w.advanceTo t)) :
    w.firstTime p = ⊤ :=
  top_le_iff.1 (le_iInf₂ fun t ht => le_iInf fun hp => absurd hp (h t ht))

end World
end DesktopHost
