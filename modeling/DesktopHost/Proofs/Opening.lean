import DesktopHost.Proofs.Invariant
import DesktopHost.Rehearsal.Session
import Mathlib.Logic.Function.Iterate

/-!
A run of a session, step by step, from a world in which nothing has happened yet.
-/

set_option autoImplicit false

namespace DesktopHost

namespace Session

def next (s : Session) : Session := s.step.getD s

/-- A run consists of steps, and goes on as long as there is one. -/
theorem run_eq_iterate (s : Session) : ∃ k, s.run = next^[k] s ∧ s.run.step = none := by
  have hnext {s s' : Session} (h : s.step = some s') : s.next = s' := by
    rw [next, h, Option.getD_some]
  fun_induction run s with
  | case1 s s' hr ih =>
    obtain ⟨k, hk, hn⟩ := ih
    have hs : s.step = some s' := by rw [step, hr]
    exact ⟨k + 1, by rw [hk, Function.iterate_succ_apply, hnext hs], hn⟩
  | case2 s hr s' hw ih =>
    obtain ⟨k, hk, hn⟩ := ih
    have hs : s.step = some s' := by rw [step, hr]; exact hw
    exact ⟨k + 1, by rw [hk, Function.iterate_succ_apply, hnext hs], hn⟩
  | case3 s hr hw => exact ⟨0, rfl, by rw [step, hr]; exact hw⟩

theorem exists_new {config : Config} (h : config.validate = .ok ()) (program : Path)
    (world : World) : ∃ s, new config program world = .ok s := by
  have ht : ∃ u, config.targetUrl = .ok u := by
    cases hu : config.targetUrl with
    | ok u => exact ⟨u, rfl⟩
    | error e =>
      rw [Config.validate, hu] at h
      revert h
      simp only [bind, Except.bind]
      repeat' split
      all_goals exact nofun
  obtain ⟨u, hu⟩ := ht
  exact ⟨_, by rw [new, h, hu]; rfl⟩

theorem stepped_next {s : Session} (h : Sound s) : ∃ es, Stepped s es s.next := by
  unfold next
  cases hs : s.step with
  | some s' => exact stepped h hs
  | none =>
    have hr : s.react = none := by
      unfold step at hs
      split at hs
      · cases hs
      · next hr => exact hr
    exact stepped_goesOn s.aside_refl.toAccount h rfl rfl (noticed?_of_waiting hr) quiet_nil

end Session

/-- What a run begins with: a valid configuration, and a world without children and without a
record. Anything may be due in that world, and anything may be scripted. -/
structure Opening where
  config : Config
  program : Path
  world : World
  session : Session
  opened : Session.new config program world = .ok session
  childless : world.children = []
  blank : world.trace = []

namespace Opening

open Session

variable (o : Opening)

/-- The session after `k` steps; what is due at the start happens before the first. -/
def state (k : Nat) : Session :=
  next^[k] (o.session.inWorld (o.session.world.advanceTo o.session.world.now))

/-- The acts up to step `k`, newest first. -/
def story (k : Nat) : List Event := (o.state k).world.acts

/-- The acts of step `k` itself. -/
def news (k : Nat) : List Event :=
  (o.story (k + 1)).take ((o.story (k + 1)).length - (o.story k).length)

/-- Every valid configuration opens a run, for any program, in any world that is still blank. -/
theorem exists_of_valid {config : Config} (h : config.validate = .ok ()) (program : Path)
    {world : World} (hc : world.children = []) (ht : world.trace = []) :
    ∃ o : Opening, o.config = config ∧ o.program = program ∧ o.world = world := by
  obtain ⟨s, hs⟩ := Session.exists_new h program world
  exact ⟨⟨config, program, world, s, hs, hc, ht⟩, rfl, rfl, rfl⟩

example : ∃ o : Opening, o.config = .forMode .production ∧ o.program = [] ∧ o.world = .empty :=
  exists_of_valid (by rfl) _ rfl rfl

/-- A whole run ends in one of the states, and that state is the last. -/
theorem play_eq_state : ∃ k, o.session.play = o.state k ∧ (o.state k).step = none := by
  obtain ⟨k, hk, hn⟩ :=
    (o.session.inWorld (o.session.world.advanceTo o.session.world.now)).run_eq_iterate
  exact ⟨k, hk, by rw [state, ← hk]; exact hn⟩

theorem state_succ (k : Nat) : o.state (k + 1) = (o.state k).next :=
  Function.iterate_succ_apply' ..

theorem session_eq : ∃ url, o.session = {
    config := o.config, launch := .forExecutable o.program o.config.backendEnv, targetUrl := url
    world := o.world, machine := .new, backend := none, window := .new
    shutdown := .new o.config.shutdownGrace, errorsReported := 0, phase := .launching } := by
  have h := o.opened
  unfold Session.new at h
  simp only [bind, Except.bind] at h
  split at h
  · cases h
  · split at h
    · cases h
    · exact ⟨_, (Except.ok.inj h).symm⟩

/-- Whether a run opens does not depend on the world. -/
theorem opened_in (w : World) :
    Session.new o.config o.program w = .ok (o.session.inWorld w) := by
  have h := o.opened
  unfold Session.new at h ⊢
  simp only [bind, Except.bind] at h ⊢
  split at h
  · cases h
  · split at h
    · cases h
    · rw [← Except.ok.inj h]
      rfl

/-- The same beginning in another world. -/
def inWorld (world : World) (childless : world.children = []) (blank : world.trace = []) :
    Opening where
  config := o.config
  program := o.program
  world := world
  session := o.session.inWorld world
  opened := o.opened_in world
  childless := childless
  blank := blank

/-- A configuration under which a session outlives its window. -/
def patient : Config := { Config.forMode .production with quitOnLastWindowClosed := false }

def scheduled (steps : List Due) : Opening where
  config := o.config
  program := o.program
  world := o.world.schedule steps
  session := o.session.inWorld (o.world.schedule steps)
  opened := o.opened_in _
  childless := o.childless
  blank := o.blank

/-- So a performance ends in a state of the opening with its steps. -/
theorem perform_eq_state (steps : List Due) : ∃ k,
    (o.session.perform steps).report =
      ((o.scheduled (steps ++ [⟨lastTime steps, .dropHandle⟩])).state k).report ∧
    ((o.scheduled (steps ++ [⟨lastTime steps, .dropHandle⟩])).state k).step = none := by
  obtain ⟨k, hk, hn⟩ := (o.scheduled (steps ++ [⟨lastTime steps, .dropHandle⟩])).play_eq_state
  refine ⟨k, ?_, hn⟩
  rw [← hk]
  obtain ⟨url, h⟩ := o.session_eq
  have hw : o.session.world = o.world := by rw [h]
  rw [perform, hw]
  rfl

theorem state_zero : ∃ url, o.state 0 = {
    config := o.config, launch := .forExecutable o.program o.config.backendEnv, targetUrl := url
    world := o.world.advanceTo o.world.now, machine := .new, backend := none, window := .new
    shutdown := .new o.config.shutdownGrace, errorsReported := 0, phase := .launching } := by
  obtain ⟨url, h⟩ := o.session_eq
  exact ⟨url, by rw [state, Function.iterate_zero, id, h]; rfl⟩

theorem later_zero : o.world.Later [] (o.state 0).world := by
  obtain ⟨url, h⟩ := o.state_zero
  rw [h]
  exact o.world.later_advanceTo _

theorem story_zero : o.story 0 = [] := by
  rw [story, o.later_zero.acts, World.acts, o.blank]
  rfl

theorem sound_zero : Sound (o.state 0) := by
  obtain ⟨url, h⟩ := o.state_zero
  rw [h]
  exact ⟨rfl, rfl, rfl, rfl⟩

theorem sound (k : Nat) : Sound (o.state k) := by
  induction k with
  | zero => exact o.sound_zero
  | succ k ih =>
    obtain ⟨es, h⟩ := stepped_next ih
    rw [state_succ]
    exact h.sound

theorem stepped (k : Nat) : Stepped (o.state k) (o.news k) (o.state (k + 1)) := by
  obtain ⟨es, h⟩ := stepped_next (o.sound k)
  rw [← state_succ] at h
  have he : o.story (k + 1) = es ++ o.story k := h.account.world.acts
  -- the record only grows at its front, so what is new is what the account tells
  have hn : o.news k = es := by
    rw [news, he, List.length_append, Nat.add_sub_cancel, List.take_left]
  rw [hn]
  exact h

theorem story_succ (k : Nat) : o.story (k + 1) = o.news k ++ o.story k :=
  (o.stepped k).account.world.acts

theorem account (k : Nat) : Account (o.state 0) (o.story k) (o.state k) := by
  induction k with
  | zero =>
    rw [story_zero]
    exact (o.state 0).aside_refl.toAccount
  | succ k ih =>
    rw [story_succ]
    exact ih.trans (o.stepped k).account

/-- The machine is what the record says of it. -/
theorem replay (k : Nat) : Machine.new.replay (o.story k) = some (o.state k).machine := by
  obtain ⟨url, h⟩ := o.state_zero
  have := (o.account k).machine
  rwa [h] at this

theorem begun_story (k : Nat) : begun (o.story k) = (o.state k).machine.cycle := by
  have := Machine.cycle_of_replay (o.replay k)
  rw [this]
  exact (Nat.zero_add _).symm

theorem config_eq (k : Nat) : (o.state k).config = o.config := by
  obtain ⟨url, h⟩ := o.state_zero
  rw [(o.account k).config, h]

theorem launch_eq (k : Nat) :
    (o.state k).launch = .forExecutable o.program o.config.backendEnv := by
  obtain ⟨url, h⟩ := o.state_zero
  rw [(o.account k).launch, h]

theorem files_eq (k : Nat) :
    (o.state k).world.files = o.world.files ∧ (o.state k).world.cwd = o.world.cwd :=
  ⟨(o.account k).world.files.trans o.later_zero.files,
    (o.account k).world.cwd.trans o.later_zero.cwd⟩

theorem children_length (k : Nat) :
    (o.state k).world.children.length = (o.story k).countP Event.isSpawn := by
  have h := (o.later_zero.quietly (.refl _)).trans (o.account k).world
  have := h.spawned
  rw [o.childless, List.append_nil] at this
  simpa using this

theorem known_mono {k i : Nat} (h : i < (o.state k).world.children.length) {m : Nat}
    (hm : k ≤ m) : i < (o.state m).world.children.length ∧
      ((o.state m).world.child? i).isSome = ((o.state k).world.child? i).isSome := by
  induction m, hm using Nat.le_induction with
  | base => exact ⟨h, rfl⟩
  | succ m _ ih =>
    have hl := (o.stepped m).account.world
    have hs := hl.spawned
    exact ⟨by omega, (hl.known i ih.1).trans ih.2⟩

end Opening
end DesktopHost
