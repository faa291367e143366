import DesktopHost.Proofs.Custody
import DesktopHost.Proofs.Exits
import DesktopHost.Proofs.Moves
import Mathlib.Logic.Relation

/-!
Exits that come from elsewhere. Whoever waits for a child may publish its exit at any moment,
between any two looks of the session at its backend. As long as that does not happen between the
two looks of one activation, no exit is lost: of every backend given up the end is known, and it
was reported, if it called for a report, before another one was spawned. Between those two looks
an exit is lost.
-/

set_option autoImplicit false

namespace DesktopHost

open Relation

/-- Child `i` was spawned, and no other since. -/
def Latest (acts : List Event) (i : Nat) : Prop :=
  ∃ since l earlier, acts = since ++ .spawn i l :: earlier ∧ since.countP Event.isSpawn = 0

/-- The crash of child `i` was shown after its spawn and before any other. -/
def Reported (acts : List Event) (i : Nat) : Prop :=
  ∃ later since l earlier, acts = later ++ (since ++ .spawn i l :: earlier) ∧
    since.countP Event.isSpawn = 0 ∧ .dialog Session.crashDialog ∈ since

theorem Latest.append {acts es : List Event} {i : Nat} (h : Latest acts i)
    (hq : es.countP Event.isSpawn = 0) : Latest (es ++ acts) i := by
  obtain ⟨since, l, earlier, rfl, hs⟩ := h
  exact ⟨es ++ since, l, earlier, (List.append_assoc ..).symm, by rw [List.countP_append, hq, hs]⟩

theorem Latest.reported {acts es : List Event} {i : Nat} (h : Latest acts i)
    (hq : es.countP Event.isSpawn = 0) (hd : .dialog Session.crashDialog ∈ es) :
    Reported (es ++ acts) i := by
  obtain ⟨since, l, earlier, rfl, hs⟩ := h
  exact ⟨[], es ++ since, l, earlier, (List.append_assoc ..).symm,
    by rw [List.countP_append, hq, hs], List.mem_append_left _ hd⟩

theorem Reported.append {acts : List Event} {i : Nat} (h : Reported acts i) (es : List Event) :
    Reported (es ++ acts) i := by
  obtain ⟨later, since, l, earlier, rfl, hs, hd⟩ := h
  exact ⟨es ++ later, since, l, earlier, (List.append_assoc ..).symm, hs, hd⟩

/-- Without a spawn there is no child that was not there before. -/
theorem World.Later.known_before {w w' : World} {es : List Event} (h : w.Later es w')
    (hq : es.countP Event.isSpawn = 0) {i : Nat} (hi : (w'.child? i).isSome = true) :
    (w.child? i).isSome = true := by
  have hlen := h.spawned
  by_cases hold : i < w.children.length
  · rw [← h.known i hold]
    exact hi
  · rw [World.child?_of_length_le (by omega)] at hi
    cases hi

/-- The end of child `i` is known, and was reported if it was not in good order. -/
def World.EndTold (w : World) (i : Nat) : Prop :=
  ∃ r, w.visibleExit i = some r ∧ (r.code ≠ some 0 → Reported w.acts i)

theorem World.EndTold.later {w w' : World} {es : List Event} {i : Nat} (h : w.EndTold i)
    (ha : w.Later es w') (hl : w.Lasting w') : w'.EndTold i := by
  obtain ⟨r, hr, hd⟩ := h
  refine ⟨r, hl i r hr, fun hc => ?_⟩
  rw [ha.acts]
  exact (hd hc).append es

namespace Session

/-- A step of a session, or an exit published beside it. A step looks at the backend at most once,
so it is enough to publish between two steps; but for an activation, whose first look follows on
that of the main loop, and for a quit, after which nothing is activated. -/
inductive Interleaves (s : Session) : Session → Prop
  | steps {s' : Session} (h : s.step = some s') : Interleaves s s'
  | publishes (i : Nat) (code : Option Int32) : Interleaves s (s.inWorld (s.world.publish i code))
  /-- The main loop has seen no exit; one is published before the activation looks itself. -/
  | overtakes {w : World} (i : Nat) (code : Option Int32) (phase : s.phase = .hosting)
      (left : s.nothingLeft = false) (unseen : s.backendExit? = none)
      (received : s.world.receive = (w, .command .activate)) :
      Interleaves s (s.inWorld (w.publish i code)).activate

/-- The same, but nothing comes between the two looks of an activation. -/
structure Undivided (s s' : Session) : Prop where
  interleaves : Interleaves s s'
  revives : s.phase = .reviving → s.step = some s'

/-- Of every child but the one held the end is known, and was reported if it called for it; and
the one held is the last that was spawned. -/
structure Accounted (s : Session) : Prop where
  sound : Sound s
  latest : ∀ b, s.backend = some b → Latest s.world.acts b.child
  told : (∀ t, s.phase ≠ .finished t) → ∀ i, (s.world.child? i).isSome = true →
    (∀ b, s.backend = some b → b.child ≠ i) → s.world.EndTold i

variable {s s' : Session} {es : List Event}

namespace Accounted

/-- A session that is over holds nobody, and owes nothing. -/
theorem of_finished (hs : Sound s) {t : Nat} (hp : s.phase = .finished t) : Accounted s := by
  refine ⟨hs, fun b hb => ?_, fun h => absurd hp (h t)⟩
  rw [((Sound.finished hp).1 hs).2] at hb
  cases hb

theorem keeps (h : Accounted s) (hs : Sound s') (ha : s.world.Later es s'.world)
    (hl : s.world.Lasting s'.world) (hb : s'.backend = s.backend)
    (hq : es.countP Event.isSpawn = 0) (hp : ∀ t, s.phase ≠ .finished t) : Accounted s' := by
  refine ⟨hs, fun b hb' => ?_, fun _ i hi hfree => ?_⟩
  · rw [ha.acts]
    exact (h.latest b (hb.symm.trans hb')).append hq
  · have hi' := ha.known_before hq hi
    exact (h.told hp i hi' fun b hb' => hfree b (hb.trans hb')).later ha hl

theorem tells (h : Accounted s) (hs : Sound s') (ha : s.world.Later es s'.world)
    (hl : s.world.Lasting s'.world) {b : Handle} {r : ExitReport} (hb : s.backend = some b)
    (hv : s.world.visibleExit b.child = some r) (hfree : s'.backend = none)
    (hes : ∃ rest, Quiet rest ∧ es = crashActs r ++ rest) (hp : ∀ t, s.phase ≠ .finished t) :
    Accounted s' := by
  obtain ⟨rest, hrest, rfl⟩ := hes
  have hq : (crashActs r ++ rest).countP Event.isSpawn = 0 := by
    rw [List.countP_append, hrest.spawns, crashActs]
    split <;> rfl
  refine ⟨hs, fun b' hb' => ?_, fun _ i hi _ => ?_⟩
  · rw [hfree] at hb'
    cases hb'
  · by_cases hbi : b.child = i
    · subst hbi
      refine ⟨r, hl _ r hv, fun hc => ?_⟩
      rw [ha.acts]
      refine (h.latest b hb).reported hq (List.mem_append_left _ ?_)
      rw [crashActs, if_neg fun hr => hc (r.isSuccess_iff.1 hr)]
      exact List.mem_cons_self
    · refine (h.told hp i (ha.known_before hq hi) fun b' hb' => ?_).later ha hl
      cases hb.symm.trans hb'
      exact hbi

/-- Where nobody is held, a child spawned now is the only one not to be told of. -/
theorem begins (h : Accounted s) (hst : Stepped s es s') (hl : s.world.Lasting s'.world)
    (hfree : s.backend = none)
    (hlatest : ∀ b, s'.backend = some b → Latest s'.world.acts b.child)
    (hp : ∀ t, s.phase ≠ .finished t) : Accounted s' := by
  have ha := hst.account.world
  refine ⟨hst.sound, hlatest, fun _ i hi hunheld => ?_⟩
  have hbefore (hi : (s.world.child? i).isSome = true) : s'.world.EndTold i := by
    refine (h.told hp i hi fun b hb => ?_).later ha hl
    rw [hfree] at hb
    cases hb
  have hlen := ha.spawned
  obtain hnone | ⟨hone, -, hheld⟩ := hst.turn.spawns
  · exact hbefore (ha.known_before hnone hi)
  · rcases Nat.lt_trichotomy i s.world.children.length with hlt | rfl | hgt
    · exact hbefore ((ha.known i hlt).symm.trans hi)
    · obtain ⟨b, hb, hbi⟩ := hheld hi
      exact absurd hbi (hunheld b hb)
    · rw [World.child?_of_length_le (by omega)] at hi
      cases hi

end Accounted

theorem probeReadiness_backend {race : Option Race} (hs : s.probeReadiness race = some s') :
    s'.backend = s.backend := by
  unfold probeReadiness at hs
  split at hs
  · obtain ⟨b, -, rfl⟩ := Option.map_eq_some_iff.1 hs
    rfl
  · next race =>
    split at hs
    · cases hs
    · cases hs
      rfl
    · next w signal _ =>
      cases hs
      let noted := (s.inWorld w).note (.readinessResolved signal (w.now - race.started))
      exact ((noted.moveTo_keeps .ready).trans (openWindow_keeps _)).backend

theorem kept_probe {race : Option Race} (hp : s.phase = .probing race) (he : s.backendExit? = none)
    (hs : s.react = some s') : s'.backend = s.backend ∨ ∃ t, s'.phase = .finished t := by
  cases hw : s.world.receive with
  | mk w received =>
    rw [react_probing hp he hw] at hs
    cases received with
    | nothing => exact .inl (probeReadiness_backend hs)
    | closed => cases hs; exact .inr ⟨_, rfl⟩
    | command c =>
      cases c with
      | quit => cases hs; exact .inr ⟨_, rfl⟩
      | _ => cases hs; exact .inl rfl

theorem kept_host (hp : s.phase = .hosting) (hl : s.nothingLeft = false)
    (he : s.backendExit? = none) (hs : s.react = some s') :
    s'.backend = s.backend ∨ ∃ t, s'.phase = .finished t := by
  cases hw : s.world.receive with
  | mk w received =>
    rw [react_hosting hp hl he hw] at hs
    cases received with
    | nothing => cases hs
    | closed => cases hs; exact .inr ⟨_, rfl⟩
    | command c =>
      cases hs
      cases c with
      | quit => exact .inr ⟨_, rfl⟩
      | windowClosed =>
        simp only [handleCommand, afterClosing]
        split
        · exact .inr ⟨_, rfl⟩
        · exact .inl rfl
      | activate =>
        simp only [handleCommand, activate, publishedExit?_of_unseen he hw]
        split <;> exact .inl rfl

/-- A backend is kept until its exit is seen, or the session is over. -/
theorem kept_or_over (h : Sound s) (hn : s.noticed? = none) {b : Handle} (hb : s.backend = some b)
    (hs : s.step = some s') : s'.backend = some b ∨ ∃ t, s'.phase = .finished t := by
  unfold step at hs
  split at hs
  · next s₁ hr =>
    cases hs
    rw [← hb]
    cases hp : s.phase with
    | probing race => exact kept_probe hp ((noticed?_probing hp).symm.trans hn) hr
    | hosting =>
      have hl : s.nothingLeft = false := by simp [nothingLeft, hb]
      exact kept_host hp hl ((noticed?_hosting hp).symm.trans hn) hr
    | reviving =>
      obtain ⟨-, -, he⟩ := (Sound.reviving hp).1 h
      unfold react at hr
      rw [hp] at hr
      cases hr
      rw [revive, if_pos (alive_of_held he hb)]
      exact .inl s.openWindow_keeps.backend
    | launching =>
      unfold Sound at h
      rw [hp] at h
      rw [h.2.1] at hb
      cases hb
    | finished t =>
      rw [((Sound.finished hp).1 h).2] at hb
      cases hb
  · unfold wait at hs
    split at hs
    · cases hs
    · obtain ⟨t, -, rfl⟩ := Option.map_eq_some_iff.1 hs
      exact .inl hb

theorem noticed_visible {b : Handle} {r : ExitReport} (hb : s.backend = some b)
    (h : s.noticed? = some r) : s.world.visibleExit b.child = some r := by
  have hexit : s.backendExit? = some r := by
    unfold noticed? at h
    split at h
    · exact h
    · exact h
    · cases h
  rwa [backendExit?, hb] at hexit

theorem unfinished_of_step (hs : s.step = some s') (t : Nat) : s.phase ≠ .finished t := by
  intro hp
  rw [step, react, wait, hp] at hs
  cases hs

namespace Accounted

theorem step (h : Accounted s) (hs : s.step = some s') : Accounted s' := by
  obtain ⟨es, hst⟩ := stepped h.sound hs
  by_cases hover : ∃ t, s'.phase = .finished t
  · obtain ⟨t, ht⟩ := hover
    exact of_finished hst.sound ht
  · have hl := lasting_step hs fun t ht => hover ⟨t, ht⟩
    have hp := unfinished_of_step hs
    have ha := hst.account.world
    cases hst.turn with
    | goesOn backend _ _ quiet => exact h.keeps hst.sound ha hl backend quiet.spawns hp
    | launchFails free _ fails =>
      refine h.begins hst hl free (fun b hb => ?_) hp
      rw [fails.backend] at hb
      cases hb
    | launches b free _ launches =>
      refine h.begins hst hl free (fun b' hb' => ?_) hp
      cases launches.backend.symm.trans hb'
      obtain ⟨l, hes⟩ := launches.acts
      rw [ha.acts, hes]
      exact ⟨[_], l, _, rfl, rfl⟩
    | notices b r held seen given _ acts =>
      exact h.tells hst.sound ha hl held (noticed_visible held seen) given acts hp
    | stops given _ unseen quiet =>
      -- where a backend is stopped, the session is over
      have hb : s.backend = none := by
        by_contra hb
        obtain ⟨b, hb⟩ := Option.ne_none_iff_exists'.1 hb
        rcases kept_or_over h.sound unseen hb hs with hb' | hfin
        · rw [given] at hb'
          cases hb'
        · exact hover hfin
      exact h.keeps hst.sound ha hl (given.trans hb.symm) quiet.spawns hp

/-- Wherever no activation is under way, an exit may be published. -/
theorem publishes (h : Accounted s) (hp : s.phase ≠ .reviving) (i : Nat) (code : Option Int32) :
    Accounted (s.inWorld (s.world.publish i code)) := by
  have hs := h.sound.inWorld hp (s.world.publish i code)
  by_cases hover : ∃ t, s.phase = .finished t
  · obtain ⟨t, ht⟩ := hover
    exact of_finished hs (t := t) ht
  · exact h.keeps hs (s.world.later_publish i code) (s.world.lasting_publish i code) rfl rfl
      fun t ht => hover ⟨t, ht⟩

/-- An activation looks once more, and what it sees it reports. -/
theorem activate (h : Accounted s) (hp : s.phase = .hosting) : Accounted s.activate := by
  have hrest := (Sound.hosting hp).1 h.sound
  have hne : s.phase ≠ .reviving := by rw [hp]; exact Phase.noConfusion
  have hopen (t : Nat) : s.phase ≠ .finished t := by
    rw [hp]
    exact Phase.noConfusion
  unfold Session.activate
  split
  · exact h.keeps (h.sound.inWorld hne _) (s.world.later_note rfl) (.of_children rfl) rfl rfl hopen
  · next hshown =>
    have hclosed : s.windowOpen = false := Bool.eq_false_iff.2 hshown
    split
    · next r hr =>
      obtain ⟨b, hb, hpub⟩ := Option.bind_eq_some_iff.1 hr
      have hv := World.visibleExit_of_published _ hpub
      have he : s.backendExit? = some r := by rw [backendExit?, hb, Option.bind_some, hv]
      obtain ⟨hj, -⟩ := s.release.aside_judgeExit_hosting r (hrest.unasked b hb) (hrest.upright hb)
      obtain ⟨-, ha, hnone, hw, -⟩ := s.account_backendExited hb hj
      obtain ⟨es, hst⟩ := stepped_exit_hosting hp hrest he
      have hrest' := (Sound.hosting ((s.backendExited_keeps r).phase.trans hp)).1 hst.sound
      have hs : Sound ((s.backendExited r).inPhase .reviving) := by
        refine (Sound.reviving rfl).2 ⟨hrest'.aside rfl rfl rfl rfl, ?_, ?_⟩
        · exact (congrArg WindowHost.isOpen hw).trans hclosed
        · change (s.backendExited r).publishedExit? = none
          rw [publishedExit?, hnone]
          rfl
      refine h.tells hs ha.world (s.lasting_backendExited r) hb hv hnone ⟨_, ?_, rfl⟩ hopen
      split
      · exact quiet_nil
      · exact stepTo_quiet _ _
    · next hnone =>
      exact h.keeps ((Sound.reviving rfl).2 ⟨hrest.aside rfl rfl rfl rfl, hclosed, hnone⟩)
        (.refl _) (.refl _) rfl rfl hopen

theorem overtakes (h : Accounted s) {w : World} (hp : s.phase = .hosting)
    (hr : s.world.receive = (w, .command .activate)) (i : Nat) (code : Option Int32) :
    Accounted (s.inWorld (w.publish i code)).activate := by
  have hne : s.phase ≠ .reviving := by rw [hp]; exact Phase.noConfusion
  have hw : Accounted (s.inWorld w) :=
    h.keeps (h.sound.inWorld hne w) (World.later_receive _ hr) (World.lasting_receive _ hr) rfl rfl
      fun t => by rw [hp]; exact Phase.noConfusion
  exact (hw.publishes hne i code).activate hp

theorem undivided (h : Accounted s) (hs : Undivided s s') : Accounted s' := by
  by_cases hp : s.phase = .reviving
  · exact h.step (hs.revives hp)
  · cases hs.interleaves with
    | steps hs => exact h.step hs
    | publishes i code => exact h.publishes hp i code
    | overtakes i code phase _ _ received => exact h.overtakes phase received i code

end Accounted

end Session

namespace Opening

open Session

variable (o : Opening)

theorem accounted_zero : Accounted (o.state 0) := by
  have hlen := o.children_length 0
  rw [story_zero] at hlen
  refine ⟨o.sound_zero, fun b hb => ?_, fun _ i hi => ?_⟩
  · obtain ⟨url, h⟩ := o.state_zero
    rw [h] at hb
    cases hb
  · rw [World.child?_of_length_le (by rw [hlen]; exact Nat.zero_le i)] at hi
    cases hi

/-- A run on its own, with no exit from elsewhere. -/
theorem reflTransGen_state {R : Session → Session → Prop}
    (hR : ∀ s s', s.step = some s' → R s s') (k : Nat) :
    ReflTransGen R (o.state 0) (o.state k) := by
  induction k with
  | zero => exact .refl
  | succ k ih =>
    cases hs : (o.state k).step with
    | none => rw [o.state_succ_of_stuck hs]; exact ih
    | some s' => rw [o.state_succ_of_step hs]; exact ih.tail (hR _ _ hs)

/-- Whatever exits are published beside a session, if none is between the two looks of an
activation then none is lost: an activation that begins a cycle holds nobody any more, and of
every child that was given up before the session is over the end is known, and it was reported
before another child was spawned if it was not in good order. -/
theorem no_exit_lost {s : Session} (h : ReflTransGen Undivided (o.state 0) s) :
    (s.phase = .reviving → s.backendAlive = false → s.backend = none) ∧
    ((∀ t, s.phase ≠ .finished t) → ∀ i, (s.world.child? i).isSome = true →
      (∀ b, s.backend = some b → b.child ≠ i) → s.world.EndTold i) := by
  have hacc : Accounted s := by
    induction h with
    | refl => exact o.accounted_zero
    | tail _ hs ih => exact ih.undivided hs
  refine ⟨fun hp hgone => ?_, hacc.told⟩
  obtain ⟨-, -, he⟩ := (Sound.reviving hp).1 hacc.sound
  exact free_of_gone he hgone

/-- The window is closed after 100 ms and the session activated after 200 ms; the child never
exits of its own accord. -/
def reopenedWorld : World :=
  { World.empty with
    files := ⟨[([[98]], .file true)]⟩
    health := [.after 0 (.ok ())]
    agenda := [⟨100, .command .windowClosed⟩, ⟨200, .command .activate⟩] }

def reopenedRun : Opening where
  config := patient
  program := [47, 98]
  world := reopenedWorld
  session := {
    config := patient
    launch := .forExecutable [47, 98] patient.backendEnv
    targetUrl := "http://localhost:8400/"
    world := reopenedWorld
    machine := .new
    backend := none
    window := .new
    shutdown := .new patient.shutdownGrace
    errorsReported := 0
    phase := .launching }
  opened := by rfl
  childless := rfl
  blank := rfl

/-- A crash that comes between the look of the main loop and that of the activation is told of
before the next child. -/
theorem overtaken_exit_told :
    let s := ((reopenedRun.state 6).inWorld
      ((reopenedRun.state 6).world.receive.1.publish 0 (some 1))).activate
    s.phase = .reviving ∧ s.backendAlive = false ∧ s.backend = none ∧ s.world.EndTold 0 := by
  intro s
  have hrun : ReflTransGen Undivided (reopenedRun.state 0) s :=
    (reopenedRun.reflTransGen_state (fun _ _ hs => ⟨.steps hs, fun _ => hs⟩) 6).tail
      ⟨.overtakes 0 (some 1) rfl rfl rfl rfl, fun hp => Phase.noConfusion hp⟩
  obtain ⟨hfree, htold⟩ := reopenedRun.no_exit_lost hrun
  have hnone : s.backend = none := hfree rfl rfl
  refine ⟨rfl, rfl, hnone, htold (fun t => Phase.noConfusion) 0 rfl fun b hb => ?_⟩
  rw [hnone] at hb
  cases hb

/-- A crash that comes between the two looks of the activation is not: the first look shows a live
backend and the second one that is gone, whose handle the next child's then replaces. -/
theorem exit_lost_between_looks : ∃ s s' b b', ReflTransGen Interleaves (reopenedRun.state 0) s ∧
    s.phase = .reviving ∧ s.backend = some b ∧ b.terminationRequested = false ∧
    b.exitReport s.world = some ⟨some 1⟩ ∧ s.step = some s' ∧ s'.backend = some b' ∧
    b'.child ≠ b.child ∧ s'.machine.cycle = s.machine.cycle + 1 ∧
    s'.world.acts.countP Event.isDialog = 0 ∧ s'.errorsReported = 0 := by
  refine ⟨(reopenedRun.state 7).inWorld ((reopenedRun.state 7).world.publish 0 (some 1)), _, _, _,
    (reopenedRun.reflTransGen_state (fun _ _ hs => .steps hs) 7).tail (.publishes 0 (some 1)),
    rfl, rfl, rfl, rfl, rfl, rfl, ?_, rfl, rfl, rfl⟩
  decide

end Opening
end DesktopHost
