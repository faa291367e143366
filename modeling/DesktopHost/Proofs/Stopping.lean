import DesktopHost.Proofs.Exits
import DesktopHost.Proofs.Independence
import DesktopHost.Proofs.Lockstep
import DesktopHost.Proofs.Quitting

/-!
Stopping a backend. How a stop ends, and when, is told by two instants: the one at which the exit
comes to light after the graceful signal, and, if that is too late, the one at which it comes to
light after the forceful signal as well. Whether a signal could be sent does not matter.
-/

set_option autoImplicit false

namespace DesktopHost

namespace World

variable {w v : World}

end World

/-- The child to which signals fail as given, and which does about them what it does. -/
def Child.failing (f g : Option Failure) (c : Child) : Child :=
  { c with script := { c.script with
      onTerminate := { c.script.onTerminate with failure := f }
      onKill := { c.script.onKill with failure := g } } }

namespace Child

variable (f g : Option Failure) (c : Child)

theorem failing_publish (code : Option Int32) :
    (c.publish code).failing f g = (c.failing f g).publish code := by
  unfold publish
  cases hp : c.published with
  | some r => simp only [failing, hp]
  | none => cases hw : c.watched <;> simp [failing, hp, hw]

theorem failing_touch (i : Nat) (d : Due) :
    (d.touch i c).failing f g = d.touch i (c.failing f g) := by
  obtain ⟨time, what⟩ := d
  unfold Due.touch
  cases what with
  | exit j code => dsimp only; split; exacts [c.failing_publish f g code, rfl]
  | ownExit j code => dsimp only; split; exacts [c.failing_publish f g code, rfl]
  | unwatch j => dsimp only; split <;> rfl
  | line j stream text =>
    cases stream with
    | stderr => rfl
    | stdout => dsimp only; split <;> rfl
  | _ => rfl

theorem failing_foldl_touch (i : Nat) (ds : List Due) :
    (ds.foldl (fun c d => d.touch i c) c).failing f g =
      ds.foldl (fun c d => d.touch i c) (c.failing f g) := by
  induction ds generalizing c with
  | nil => rfl
  | cons d rest ih => rw [List.foldl_cons, ih, failing_touch, List.foldl_cons]

/-- What a child does about a signal, whether or not the signal fails. -/
theorem failing_reaction (s : TerminationSignal) :
    ((c.failing f g).script.reaction s).exitAfter = (c.script.reaction s).exitAfter ∧
      ((c.failing f g).script.reaction s).code = (c.script.reaction s).code := by
  cases s <;> exact ⟨rfl, rfl⟩

end Child

namespace World

/-- The world in which signals to child `i` fail as given. -/
def failing (w : World) (i : Nat) (f g : Option Failure) : World :=
  w.updateChild i (·.failing f g)

/-- What comes of a signal to a child, its failure apart. -/
theorem signal_fst (w : World) (i : Nat) (s : TerminationSignal) : (w.signal i s).1 =
    let code := (w.child? i).bind fun c => (c.script.reaction s).code
    match (w.child? i).bind fun c => (c.script.reaction s).exitAfter with
    | none => w.emit (.signal i s)
    | some 0 => (w.emit (.signal i s)).publish i code
    | some t => (w.emit (.signal i s)).schedule [⟨w.now + sleepLength t, .ownExit i code⟩] := by
  have hchild : (w.emit (.signal i s)).child? i = w.child? i := rfl
  unfold signal
  dsimp only
  rw [hchild]
  cases w.child? i with
  | none => rfl
  | some c => rfl

/-- Worlds that differ at most in which signals fail, and in the remarks made. -/
structure Akin (w v : World) : Prop where
  now : v.now = w.now
  agenda : v.agenda = w.agenda
  deeds : v.deeds = w.deeds
  child (i : Nat) : (v.child? i).map (Child.failing none none) =
    (w.child? i).map (Child.failing none none)

namespace Akin

variable {u w v : World}

theorem refl (w : World) : w.Akin w := ⟨rfl, rfl, rfl, fun _ => rfl⟩

theorem symm (h : w.Akin v) : v.Akin w :=
  ⟨h.now.symm, h.agenda.symm, h.deeds.symm, fun i => (h.child i).symm⟩

theorem trans (h : u.Akin w) (h' : w.Akin v) : u.Akin v :=
  ⟨h'.now.trans h.now, h'.agenda.trans h.agenda, h'.deeds.trans h.deeds,
    fun i => (h'.child i).trans (h.child i)⟩

theorem note (w : World) {n : Note} (h : n.isDeed = false) : w.Akin (w.note n) :=
  ⟨rfl, rfl, deeds_note w h, fun _ => rfl⟩

theorem failing (w : World) (i : Nat) (f g : Option Failure) : w.Akin (w.failing i f g) := by
  refine ⟨rfl, rfl, rfl, fun j => ?_⟩
  rw [World.failing, child?_updateChild]
  split
  · rw [Option.map_map]
    rfl
  · rfl

theorem bind {α : Type} (h : w.Akin v) (i : Nat) {f : Child → Option α}
    (hf : ∀ c, f (c.failing none none) = f c) : (v.child? i).bind f = (w.child? i).bind f := by
  have hmap (u : World) :
      (u.child? i).bind f = ((u.child? i).map (Child.failing none none)).bind f := by
    rw [Option.bind_map]
    exact congrArg _ (funext fun c => (hf c).symm)
  rw [hmap, hmap, h.child]

theorem visibleExit (h : w.Akin v) (i : Nat) : v.visibleExit i = w.visibleExit i :=
  h.bind i fun _ => rfl

theorem publishedExit (h : w.Akin v) (i : Nat) : v.publishedExit i = w.publishedExit i :=
  h.bind i fun _ => rfl

theorem advanceTo (h : w.Akin v) (t : Nat) : (w.advanceTo t).Akin (v.advanceTo t) := by
  refine ⟨?_, ?_, ?_, fun i => ?_⟩
  · rw [advanceTo_now, advanceTo_now, h.now]
  · rw [advanceTo_agenda, advanceTo_agenda, h.agenda]
  · rw [deeds_advanceTo, deeds_advanceTo, h.deeds]
  · have hmap (u : World) : ((u.advanceTo t).child? i).map (Child.failing none none) =
        ((u.child? i).map (Child.failing none none)).map
          ((Due.upTo t u.agenda).foldl fun c d => d.touch i c) := by
      rw [child?_advanceTo, Option.map_map, Option.map_map]
      exact congrArg (Option.map · _)
        (funext fun c => c.failing_foldl_touch none none i (Due.upTo t u.agenda))
    rw [hmap, hmap, h.child, h.agenda]

theorem exitTime (h : w.Akin v) (i : Nat) : v.exitTime i = w.exitTime i :=
  (w.firstTime_congr h.now fun t => by rw [(h.advanceTo t).visibleExit]).symm

theorem publish (h : w.Akin v) (i : Nat) (code : Option Int32) :
    (w.publish i code).Akin (v.publish i code) := by
  refine ⟨h.now, h.agenda, h.deeds, fun j => ?_⟩
  have hmap (u : World) : ((u.publish i code).child? j).map (Child.failing none none) =
      ((u.child? j).map (Child.failing none none)).map
        fun c => if i = j then c.publish code else c := by
    rw [World.publish, child?_updateChild]
    split
    · rw [Option.map_map, Option.map_map]
      exact congrArg (Option.map · _) (funext fun c => c.failing_publish none none code)
    · rw [Option.map_id']
  rw [hmap, hmap, h.child]

/-- A signal has the same consequences, but for its failure. -/
theorem signal (h : w.Akin v) (i : Nat) (s : TerminationSignal) :
    (w.signal i s).1.Akin (v.signal i s).1 := by
  have hemit : (w.emit (.signal i s)).Akin (v.emit (.signal i s)) :=
    ⟨h.now, h.agenda,
      congrArg₂ (fun t ds => (t, Event.signal i s) :: ds) h.now h.deeds, h.child⟩
  have hafter := h.bind i (f := fun c => (c.script.reaction s).exitAfter)
    fun c => (c.failing_reaction none none s).1
  have hcode := h.bind i (f := fun c => (c.script.reaction s).code)
    fun c => (c.failing_reaction none none s).2
  rw [signal_fst, signal_fst, hafter, hcode]
  split
  · exact hemit
  · exact hemit.publish i _
  · refine ⟨hemit.now, ?_, hemit.deeds, hemit.child⟩
    simp only [schedule, emit_agenda, h.agenda, h.now]

theorem awaitExit (h : w.Akin v) (i ms : Nat) :
    Same Akin (w.awaitExit i (w.now + ms)) (v.awaitExit i (v.now + ms)) := by
  rw [h.now]
  exact same_awaitExit (fun h => h.now.symm) (fun h i => (h.visibleExit i).symm)
    (fun h t => h.advanceTo t) h i (by rw [h.now]; exact Nat.le_add_right _ _)

end Akin

/-- The world in which child `i` has just been asked to exit. -/
def asked (w : World) (i : Nat) : World := (w.signal i .graceful).1

/-- The world in which child `i` has been asked to exit and, `grace` later, is forced to. -/
def forced (w : World) (i grace : Nat) : World :=
  (((w.asked i).advanceTo (w.now + grace)).signal i .forceful).1

end World

namespace Shutdown

open World (Akin Same)

variable {w v : World} {h : Handle}

end Shutdown

namespace Shutdown

open World (Akin)

variable {w : World} {h : Handle}

end Shutdown

end DesktopHost
