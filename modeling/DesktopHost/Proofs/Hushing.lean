import DesktopHost.Proofs.Agenda
import DesktopHost.Proofs.FirstSignal

/-!
A world without the output of its children: no stream is scripted, no line is due, no latch has
fired, and the record tells of no line. What happens in a world, apart from its output, is what
happens in the world without.
-/

set_option autoImplicit false

namespace DesktopHost

/-- The record of a line, or of the first line with a marker. -/
def Event.isTalk : Event → Bool
  | .line .. | .note (.startupReported _) => true
  | _ => false

def ChildScript.hushed (c : ChildScript) : ChildScript := { c with stdout := none, stderr := none }

def Child.hushed (c : Child) : Child := { c with latch := .new [], script := c.script.hushed }

theorem Child.hushed_publish (c : Child) (code : Option Int32) :
    (c.publish code).hushed = c.hushed.publish code := by
  unfold Child.publish
  rw [show c.hushed.published = c.published from rfl, show c.hushed.watched = c.watched from rfl]
  split
  · rfl
  · split <;> rfl

theorem nextOf_map {α β : Type} (f : α → β) (fallback : α) (l : List α) :
    nextOf (f fallback) (l.map f) = ((nextOf fallback l).1 |> f, (nextOf fallback l).2.map f) := by
  match l with
  | [] => rfl
  | [a] => rfl
  | a :: b :: rest => rfl

namespace ChildScript

/-- The child as it stands after its spawn. -/
def newborn (script : ChildScript) : Child :=
  let child : Child := ⟨script.pid, none, true, .new [], script⟩
  let child :=
    match script.exit with
    | some (0, code) => child.publish code
    | _ => child
  if script.unwatchAt = some 0 then { child with watched := false } else child

/-- What its script sets for later. -/
def plans (script : ChildScript) (now i : Nat) : List Due :=
  (match script.exit with
    | some (t + 1, code) => [⟨now + sleepLength (t + 1), .ownExit i code⟩]
    | _ => []) ++
  match script.unwatchAt with
  | some (t + 1) => [⟨now + sleepLength (t + 1), .unwatch i⟩]
  | _ => []

theorem newborn_hushed (script : ChildScript) : script.hushed.newborn = script.newborn.hushed := by
  obtain ⟨pid, failure, exit, unwatchAt, stdout, stderr, onTerminate, onKill⟩ := script
  unfold newborn hushed
  dsimp only
  split <;> split <;> rfl

theorem plans_hushed (script : ChildScript) (now i : Nat) :
    script.hushed.plans now i = script.plans now i := rfl

theorem not_isLine_of_plans {script : ChildScript} {now i : Nat} :
    ∀ d ∈ script.plans now i, d.isLine = false := by
  intro d hd
  rcases List.mem_append.1 hd with hd | hd
  · split at hd
    · rw [List.mem_singleton.1 hd]
      rfl
    · cases hd
  · split at hd
    · rw [List.mem_singleton.1 hd]
      rfl
    · cases hd

theorem filter_plans (script : ChildScript) (now i : Nat) :
    (script.plans now i).filter (fun d => !d.isLine) = script.plans now i :=
  List.filter_eq_self.2 fun d hd => by rw [not_isLine_of_plans d hd]; rfl

end ChildScript

namespace World

/-- A spawn call is recorded, and what it leaves behind counts as a child. -/
def bear (w : World) (l : Launch) (c : Option Child) : World :=
  { w.emit (.spawn w.children.length l) with
    childScripts := (nextOf .inert w.childScripts).2
    children := w.children ++ [c] }

theorem spawn_eq (w : World) (l : Launch) : w.spawn l =
    match w.nextScript.spawnFailure with
    | some f => (w.bear l none, .error f)
    | none => ((w.bear l (some w.nextScript.newborn)).schedule
        (w.nextScript.plans w.now w.children.length), .ok w.children.length) := rfl

def hushed (w : World) : World :=
  { w with
    agenda := w.agenda.filter fun d => !d.isLine
    children := w.children.map (·.map Child.hushed)
    childScripts := w.childScripts.map ChildScript.hushed
    trace := w.trace.filter fun e => !e.2.isTalk }

/-- The same of a world with an answer. -/
def hush {α : Type} (x : World × α) : World × α := (x.1.hushed, x.2)

variable (w : World)

theorem hushed_emit {e : Event} (h : e.isTalk = false) : (w.emit e).hushed = w.hushed.emit e := by
  simp [hushed, emit, h]

theorem hushed_emit_talk {e : Event} (h : e.isTalk = true) : (w.emit e).hushed = w.hushed := by
  simp [hushed, emit, h]

theorem hushed_note {n : Note} (h : (Event.note n).isTalk = false) :
    (w.note n).hushed = w.hushed.note n :=
  w.hushed_emit h

theorem hushed_child? (i : Nat) : w.hushed.child? i = (w.child? i).map Child.hushed := by
  simp only [child?, hushed, List.getElem?_map]
  cases w.children[i]? <;> rfl

theorem hushed_updateChild {f g : Child → Child} (h : ∀ c, (f c).hushed = g c.hushed) (i : Nat) :
    (w.updateChild i f).hushed = w.hushed.updateChild i g := by
  have hchildren : (w.children.modify i (·.map f)).map (·.map Child.hushed) =
      (w.children.map (·.map Child.hushed)).modify i (·.map g) := by
    refine List.ext_getElem? fun j => ?_
    rw [List.getElem?_map, List.getElem?_modify, List.getElem?_modify, List.getElem?_map]
    split
    · cases w.children[j]? with
      | none => rfl
      | some c =>
        cases c with
        | none => rfl
        | some c => exact congrArg (fun c => some (some c)) (h c)
    · cases w.children[j]? <;> rfl
  simp only [hushed, updateChild, hchildren]

theorem hushed_setLatch (i : Nat) (latch : Latch) :
    (w.updateChild i fun c => { c with latch := latch }).hushed = w.hushed := by
  have hchildren : w.hushed.children.modify i (·.map id) = w.hushed.children := by
    refine List.ext_getElem? fun j => ?_
    rw [List.getElem?_modify]
    split <;> simp
  rw [w.hushed_updateChild (f := fun c => { c with latch := latch }) (g := id) (fun _ => rfl)]
  simp only [updateChild, hchildren]

theorem hushed_publish (i : Nat) (code : Option Int32) :
    (w.publish i code).hushed = w.hushed.publish i code :=
  w.hushed_updateChild (fun c => c.hushed_publish code) i

theorem hushed_schedule (sorted : Due.Sorted w.agenda) (ds : List Due) :
    (w.schedule ds).hushed = w.hushed.schedule (ds.filter fun d => !d.isLine) := by
  simp only [hushed, schedule, sorted.filter_insertAll]

theorem hushed_visibleExit (i : Nat) : w.hushed.visibleExit i = w.visibleExit i := by
  rw [visibleExit, hushed_child?]
  cases hc : w.child? i with
  | none => rw [visibleExit, hc]; rfl
  | some c => rw [visibleExit, hc]; rfl

theorem hushed_publishedExit (i : Nat) : w.hushed.publishedExit i = w.publishedExit i := by
  rw [publishedExit, hushed_child?]
  cases hc : w.child? i with
  | none => rw [publishedExit, hc]; rfl
  | some c => rw [publishedExit, hc]; rfl

theorem hush_receive : hush w.receive = w.hushed.receive := by
  unfold receive
  rw [show w.hushed.queue = w.queue from rfl, show w.hushed.handleHeld = w.handleHeld from rfl]
  split
  · rfl
  · split <;> rfl

theorem hush_startCheck : hush w.startCheck = w.hushed.startCheck := by
  unfold startCheck
  rw [show w.hushed.health = w.health from rfl, show w.hushed.checks = w.checks from rfl]
  dsimp only
  split <;> rfl

theorem hush_openWindow (url : String) : hush (w.openWindow url) = w.hushed.openWindow url := by
  unfold openWindow
  rw [show w.hushed.surface = w.surface from rfl]
  dsimp only
  split <;> rfl

theorem hush_showDialog (d : Dialog) : hush (w.showDialog d) = w.hushed.showDialog d := by
  unfold showDialog
  dsimp only
  rw [show (w.emit (.dialog d)).panics = w.panics from rfl,
    show (w.hushed.emit (.dialog d)).panics = w.panics from rfl]
  split <;> rfl

theorem hush_signal (sorted : Due.Sorted w.agenda) (i : Nat) (s : TerminationSignal) :
    hush (w.signal i s) = w.hushed.signal i s := by
  unfold signal
  dsimp only
  rw [show (w.emit (.signal i s)).child? i = w.child? i from rfl,
    show (w.hushed.emit (.signal i s)).child? i = w.hushed.child? i from rfl, hushed_child?]
  cases w.child? i with
  | none => exact Prod.ext (w.hushed_emit rfl) rfl
  | some c =>
    have hreaction : c.hushed.script.reaction s = c.script.reaction s := by cases s <;> rfl
    dsimp only [Option.map_some]
    rw [hreaction]
    obtain ⟨failure, exitAfter, code⟩ := c.script.reaction s
    refine Prod.ext ?_ rfl
    match exitAfter with
    | none => exact w.hushed_emit (e := .signal i s) rfl
    | some 0 =>
      have h := hushed_publish (w.emit (.signal i s)) i code
      rw [w.hushed_emit rfl] at h
      exact h
    | some (t + 1) =>
      have h := hushed_schedule (w.emit (.signal i s)) sorted
        [⟨w.now + sleepLength (t + 1), .ownExit i code⟩]
      rw [w.hushed_emit rfl] at h
      exact h

theorem hushed_nextOf : nextOf ChildScript.inert w.hushed.childScripts =
    (w.nextScript.hushed, (nextOf .inert w.childScripts).2.map ChildScript.hushed) :=
  nextOf_map ChildScript.hushed .inert w.childScripts

theorem hushed_bear (l : Launch) (c : Option Child) :
    (w.bear l c).hushed = w.hushed.bear l (c.map Child.hushed) := by
  have hlength : w.hushed.children.length = w.children.length := List.length_map _
  unfold bear
  rw [hushed_nextOf, hlength, ← w.hushed_emit rfl]
  simp only [hushed, List.map_append, List.map_singleton, emit]

theorem hush_spawn (sorted : Due.Sorted w.agenda) (l : Launch) :
    hush (w.spawn l) = w.hushed.spawn l := by
  have hscript : w.hushed.nextScript = w.nextScript.hushed := congrArg Prod.fst w.hushed_nextOf
  have hlength : w.hushed.children.length = w.children.length := List.length_map _
  rw [spawn_eq, spawn_eq, hscript, hlength, ChildScript.plans_hushed, ChildScript.newborn_hushed,
    show w.nextScript.hushed.spawnFailure = w.nextScript.spawnFailure from rfl]
  cases w.nextScript.spawnFailure with
  | some f => exact Prod.ext (w.hushed_bear l none) rfl
  | none =>
    have hplans := hushed_schedule (w.bear l (some w.nextScript.newborn)) sorted
      (w.nextScript.plans w.now w.children.length)
    rw [hushed_bear, ChildScript.filter_plans] at hplans
    exact Prod.ext hplans rfl

theorem hushed_attachReaders (sorted : Due.Sorted w.agenda) (i : Nat) (markers : List String) :
    (w.attachReaders i markers).hushed = w.hushed := by
  have hlines (now : Nat) (stream : StreamKind) (chunks : Option (List Chunk)) :
      (linesDue now i stream chunks).filter (fun d => !d.isLine) = [] := by
    refine List.filter_eq_nil_iff.2 fun d hd => ?_
    obtain ⟨l, -, rfl⟩ := List.mem_map.1 hd
    exact Bool.false_ne_true
  cases hc : w.child? i with
  | none => rw [attachReaders, hc]
  | some c =>
    rw [attachReaders_eq hc, hushed_schedule (w.updateChild i _) sorted, List.filter_append, hlines,
      hlines, hushed_setLatch]
    rfl

theorem sorted_spawn (sorted : Due.Sorted w.agenda) (l : Launch) :
    Due.Sorted (w.spawn l).1.agenda := by
  rw [spawn_eq]
  cases w.nextScript.spawnFailure with
  | some f => exact sorted
  | none => exact sorted.insertAll _

theorem hushed_hushed : w.hushed.hushed = w.hushed := by
  simp only [hushed, List.filter_filter, Bool.and_self, List.map_map]
  congr 1
  refine List.map_congr_left fun c _ => ?_
  cases c <;> rfl

/-- The markers, too, are of no consequence without the output. -/
theorem hushed_spawnBackend (sorted : Due.Sorted w.agenda) (l : Launch) (markers : List String) :
    (w.spawnBackend l markers).1.hushed = (w.hushed.spawnBackend l markers).1.hushed ∧
      (w.spawnBackend l markers).2 = (w.hushed.spawnBackend l markers).2 := by
  have hnote (w : World) {n : Note} (hn : (Event.note n).isTalk = false) :
      (w.note n).hushed = (w.hushed.note n).hushed := by
    rw [hushed_note _ hn, hushed_note _ hn, hushed_hushed]
  have hsorted := w.sorted_spawn sorted l
  unfold spawnBackend
  rw [show w.hushed.files = w.files from rfl, show w.hushed.cwd = w.cwd from rfl,
    ← w.hush_spawn sorted]
  split
  · generalize w.spawn l = x at hsorted
    obtain ⟨w', result⟩ := x
    cases result with
    | error f => exact ⟨hnote w' rfl, rfl⟩
    | ok i =>
      dsimp only [hush]
      rw [hushed_attachReaders w' hsorted, hushed_attachReaders w'.hushed (hsorted.filter _),
        hushed_hushed]
      refine ⟨rfl, ?_⟩
      simp only [Handle.ofChild, hushed_child?]
      cases w'.child? i <;> rfl
  · exact ⟨hnote w rfl, rfl⟩

theorem hushed_readLine (i : Nat) (stream : StreamKind) (text : String) :
    (w.readLine i stream text).hushed = w.hushed := by
  unfold readLine
  split
  · rfl
  · next c _ =>
    have hline : (w.emit (.line c.pid stream text)).hushed = w.hushed := w.hushed_emit_talk rfl
    cases stream with
    | stderr => exact hline
    | stdout =>
      dsimp only
      split
      · exact (hushed_emit_talk _ rfl).trans ((hushed_setLatch _ i _).trans hline)
      · exact (hushed_setLatch _ i _).trans hline

/-- A line is met in passing. -/
theorem hushed_meet_line {d : Due} (h : d.isLine = true) :
    (w.meet d).hushed = w.hushed.withClock (max w.now d.time) := by
  obtain ⟨time, what⟩ := d
  cases what with
  | line i stream text => exact hushed_readLine (w.withClock (max w.now time)) i stream text
  | _ => cases h

theorem hushed_sendCommand (c : Command) :
    (w.sendCommand c).hushed = w.hushed.sendCommand c := by
  unfold sendCommand
  rw [show w.hushed.handleHeld = w.handleHeld from rfl,
    show w.hushed.listening = w.listening from rfl]
  split
  · split <;> rfl
  · rfl

theorem hushed_meet {d : Due} (h : d.isLine = false) : (w.meet d).hushed = w.hushed.meet d := by
  obtain ⟨time, what⟩ := d
  let u := w.withClock (max w.now time)
  cases what with
  | line i stream text => cases h
  | command c => exact u.hushed_sendCommand c
  | exit i code =>
    change ((u.emit (.exit i code (u.child? i).isSome)).publish i code).hushed =
      (u.hushed.emit (.exit i code (u.hushed.child? i).isSome)).publish i code
    rw [hushed_publish, hushed_emit _ rfl, hushed_child?, Option.isSome_map]
  | ownExit i code => exact u.hushed_publish i code
  | unwatch i =>
    exact u.hushed_updateChild (f := fun c => { c with watched := false })
      (g := fun c => { c with watched := false }) (fun _ => rfl) i
  | dropHandle => rfl
  | nothing => rfl

/-- Of what is met on the way, the lines move nothing but the clock. -/
theorem hushed_foldl_meet {ds : List Due} (sorted : Due.Sorted ds) (t : Nat) :
    ((ds.foldl meet w).withClock t).hushed =
      ((ds.filter fun d => !d.isLine).foldl meet w.hushed).withClock t := by
  induction ds generalizing w with
  | nil => rfl
  | cons d rest ih =>
    obtain ⟨hfirst, hrest⟩ := List.pairwise_cons.1 sorted
    rw [List.foldl_cons, ih (w.meet d) hrest]
    cases hd : d.isLine with
    | false => rw [List.filter_cons_of_pos (by rw [hd]; rfl), List.foldl_cons, w.hushed_meet hd]
    | true =>
      rw [List.filter_cons_of_neg (by rw [hd]; exact Bool.false_ne_true), w.hushed_meet_line hd]
      -- the clock goes on at least as far with whatever is met next
      refine foldl_meet_withClock w.hushed fun e he => hfirst e ?_
      exact (List.mem_filter.1 (List.mem_of_mem_head? he)).1

/-- Time passes without the output as it does with it. -/
theorem hushed_advanceTo (sorted : Due.Sorted w.agenda) (t : Nat) :
    (w.advanceTo t).hushed = w.hushed.advanceTo t := by
  obtain ⟨hup, hbeyond⟩ := sorted.filter_upTo (fun d => !d.isLine) t
  have hsorted : Due.Sorted (Due.upTo t w.agenda) := sorted.sublist (List.takeWhile_sublist _)
  rw [advanceTo_eq, advanceTo_eq, hushed_foldl_meet _ hsorted,
    show w.hushed.agenda = w.agenda.filter fun d => !d.isLine from rfl, hup, hbeyond]
  rfl

end World
end DesktopHost
