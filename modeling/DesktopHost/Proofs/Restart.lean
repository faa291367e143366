import DesktopHost.Proofs.Quitting
import DesktopHost.Proofs.Renewal

/-!
To be activated again, with no window and no backend, is to begin anew: the rest of the run is the
run of a new session in what remains of the world.
-/

set_option autoImplicit false

namespace DesktopHost

namespace Occurrence

theorem mapChild_id (o : Occurrence) : o.mapChild (· + 0) = o := by cases o <;> rfl

theorem mapChild_sub_add {k : Nat} {o : Occurrence} (h : o.isPast k = false) :
    (o.mapChild (· - k)).mapChild (· + k) = o := by
  have hsub {i : Nat} (hi : decide (i < k) = false) : i - k + k = i :=
    Nat.sub_add_cancel (Nat.le_of_not_lt (of_decide_eq_false hi))
  cases o with
  | exit i code => exact congrArg (Occurrence.exit · code) (hsub h)
  | ownExit i code => exact congrArg (Occurrence.ownExit · code) (hsub h)
  | unwatch i => exact congrArg Occurrence.unwatch (hsub h)
  | line i stream text => exact congrArg (Occurrence.line · stream text) (hsub h)
  | _ => rfl

end Occurrence

namespace Due

/-- The entry as seen by who comes after `t` milliseconds and `k` children. -/
def before (t k : Nat) (d : Due) : Due := ⟨d.time - t, d.what.mapChild (· - k)⟩

theorem after_before {p : Past} {d : Due} (ht : p.time ≤ d.time)
    (hd : d.what.isPast p.children = false) : (d.before p.time p.children).after p = d := by
  obtain ⟨time, what⟩ := d
  have htime : time - p.time + p.time = time := Nat.sub_add_cancel ht
  simp only [after, before, Occurrence.after, Occurrence.mapChild_sub_add hd, htime]

end Due

namespace World

/-- What remains of a world for who begins now: the clock and the counting start anew, and the
children so far and all that is due to them are left out. -/
def remaining (w : World) : World :=
  { w with
    now := 0
    agenda := (Due.present w.children.length w.agenda).map (Due.before w.now w.children.length)
    children := []
    checks := 0
    trace := [] }

variable {w : World}

theorem lt_time_of_present (h : w.Timely) {d : Due}
    (hd : d ∈ Due.present w.children.length w.agenda) :
    w.now < d.time ∧ d.what.isPast w.children.length = false := by
  obtain ⟨hmem, hpresent⟩ := List.mem_filter.1 hd
  have hpast : d.what.isPast w.children.length = false := by simpa using hpresent
  refine ⟨Nat.lt_of_not_le fun hle => ?_, hpast⟩
  rw [h d hmem hle] at hpast
  cases hpast

theorem follows_remaining (sorted : Due.Sorted w.agenda) (timely : w.Timely) {p : Past}
    (time : p.time = w.now) (children : p.children = w.children.length)
    (checks : p.checks = w.checks) (record : p.record = w.ownRecord) :
    w.Follows p w.remaining where
  agenda := by
    have hself : ∀ d ∈ Due.present w.children.length w.agenda,
        (d.before p.time p.children).after p = d := by
      intro d hd
      obtain ⟨hlt, hpast⟩ := lt_time_of_present timely hd
      exact Due.after_before (by omega) (by rw [children]; exact hpast)
    rw [remaining, ← time, ← children]
    dsimp only
    rw [List.map_map]
    rw [← children] at hself
    exact ((List.map_congr_left hself).trans (List.map_id' _)).symm
  sorted := sorted
  files := rfl
  cwd := rfl
  spawned := by rw [children]; exact (Nat.zero_add _).symm
  child i := by
    rw [child?, List.getElem?_eq_none (by omega)]
    rfl
  childScripts := rfl
  health := rfl
  checks := by rw [checks]; exact (Nat.zero_add _).symm
  surface := rfl
  panics := rfl
  queue := rfl
  handleHeld := rfl
  listening := rfl
  record := record.symm
  now := by rw [time]; exact (Nat.zero_add _).symm
  timely := timely

theorem follows_self (sorted : Due.Sorted w.agenda) (timely : w.Timely) : w.Follows .none w where
  agenda := by
    have hpresent : Due.present 0 w.agenda = w.agenda := by
      refine List.filter_eq_self.2 fun d _ => ?_
      cases d.what <;> rfl
    have hafter : w.agenda.map (Due.after .none) = w.agenda.map fun d => d :=
      List.map_congr_left fun d _ => congrArg (Due.mk d.time) d.what.mapChild_id
    rw [hafter, List.map_id']
    exact hpresent
  sorted := sorted
  files := rfl
  cwd := rfl
  spawned := rfl
  child _ := rfl
  childScripts := rfl
  health := rfl
  checks := rfl
  surface := rfl
  panics := rfl
  queue := rfl
  handleHeld := rfl
  listening := rfl
  record := by
    have hafter : w.ownRecord.map (fun e => (e.1 + Past.none.time, e.2.after .none)) =
        w.ownRecord.map fun e => e :=
      List.map_congr_left fun e _ => congrArg (Prod.mk e.1) e.2.after_none
    rw [hafter, List.map_id']
    exact (List.append_nil _).symm
  now := rfl
  timely := timely

/-- Nothing of what remains is due at once. -/
theorem advanceTo_remaining (h : w.Timely) : w.remaining.advanceTo 0 = w.remaining := by
  rw [advanceTo_of_upTo_nil]
  · rfl
  · refine Due.upTo_of_lt fun d hd => ?_
    obtain ⟨e, he, rfl⟩ := List.mem_map.1 hd
    exact Nat.sub_pos_of_lt (lt_time_of_present h he).1

end World

namespace Session

/-- What lies behind a session at the moment. -/
def past (s : Session) : Past where
  time := s.world.now
  children := s.world.children.length
  checks := s.world.checks
  cycles := s.machine.cycle
  errors := s.errorsReported
  record := s.world.ownRecord

/-- The run that ended as `s` did, after the past `p`, what the run did that ended as `r`: it spawned,
signalled, checked, asked for windows, showed dialogs and recorded the same at the same intervals,
and was over as late and in the same state. -/
structure Continues (p : Past) (s r : Session) : Prop where
  finished : s.finishedAt? = r.finishedAt?.map (· + p.time)
  state : s.report.finalState = r.report.finalState
  errors : s.report.errorsReported = r.report.errorsReported + p.errors
  cycles : s.report.cycles = r.report.cycles + p.cycles
  record : s.world.ownRecord =
    r.world.ownRecord.map (fun e => (e.1 + p.time, e.2.after p)) ++ p.record

variable {p : Past} {s r : Session}

theorem Follows.continues {c : Nat} (h : Follows p s (r.atClock c)) : Continues p s r where
  finished := h.inStep.finishedAt?
  state := by
    rw [h.inStep.report]
    rfl
  errors := h.errors
  cycles := by
    rw [h.inStep.report]
    rfl
  record := h.world.record

/-- Steps keep the agenda in order. -/
theorem Follows.next (h : Follows .none s s) : Follows .none s.next s.next := by
  unfold Session.next step
  have hreact := h.react
  cases hs : s.react with
  | some s' =>
    rw [hs] at hreact
    cases hreact with
    | some h' => exact h'
  | none =>
    dsimp only
    cases hw : s.wait with
    | none => exact h
    | some s' =>
      unfold wait at hw
      split at hw
      · cases hw
      · obtain ⟨t, -, rfl⟩ := Option.map_eq_some_iff.1 hw
        exact h.stay (h.inWorld (h.world.advanceTo t)) rfl rfl

/-- The session as it was before its first cycle, in what remains of its world. -/
def afresh (s : Session) : Session where
  config := s.config
  launch := s.launch
  targetUrl := s.targetUrl
  world := s.world.remaining
  machine := .new
  backend := none
  window := .new
  shutdown := .new s.config.shutdownGrace
  errorsReported := 0
  phase := .launching

theorem beside_afresh (hb : s.backend = none) (hw : s.window = .new)
    (hs : s.shutdown = .new s.config.shutdownGrace) (sorted : Due.Sorted s.world.agenda)
    (timely : s.world.Timely) : Beside s.past s.beginning s.afresh.beginning := by
  have hworld := World.follows_remaining sorted timely (p := s.past) rfl rfl rfl rfl
  have hbeside : Beside s.past (s.withMachine (Machine.new.after s.past)) s.afresh :=
    ⟨rfl, rfl, rfl, hworld, rfl, hb, hw, hs, (Nat.zero_add _).symm⟩
  have hcycle : s.machine.cycle + 1 = 1 + s.past.cycles := Nat.add_comm _ _
  have hbegun := (hbeside.withMachine ⟨.starting, 1⟩).note (.cycleBegun 1)
  unfold beginning
  rw [hcycle]
  exact hbegun

/-- Who may begin a cycle, with no window and no backend, begins it as if for the first time. -/
theorem startCycle_continues (hm : s.machine.state.mayBegin = true) (hb : s.backend = none)
    (hw : s.window = .new) (hs : s.shutdown = .new s.config.shutdownGrace)
    (sorted : Due.Sorted s.world.agenda) (timely : s.world.Timely) :
    Continues s.past s.startCycle.run s.afresh.play := by
  have hplay : s.afresh.play = s.afresh.startCycle.run := by
    have hworld : s.afresh.world.advanceTo s.afresh.world.now = s.afresh.world :=
      World.advanceTo_remaining timely
    rw [play, hworld]
    exact run_of_react (s := s.afresh) rfl
  obtain ⟨c, hc⟩ := (beside_afresh hb hw hs sorted timely).spawnBackend.run
  rw [hplay, s.startCycle_eq hm, s.afresh.startCycle_eq rfl]
  exact hc.continues

/-- Without a window and a backend, to be activated leads to a new cycle. -/
theorem react_activate {w : World} (hp : s.phase = .hosting) (hl : s.nothingLeft = false)
    (hb : s.backend = none) (hw : s.windowOpen = false)
    (hr : s.world.receive = (w, .command .activate)) :
    s.react = some ((s.inWorld w).inPhase .reviving) := by
  have hx : s.backendExit? = none := by rw [backendExit?, hb]; rfl
  have hx' : (s.inWorld w).publishedExit? = none := publishedExit?_of_unseen hx hr
  rw [react_hosting hp hl hx hr]
  change some (s.inWorld w).activate = _
  unfold activate
  rw [if_neg (by rw [show (s.inWorld w).windowOpen = s.windowOpen from rfl, hw]
                 exact Bool.false_ne_true), hx']

theorem react_revive (hp : s.phase = .reviving) (hb : s.backend = none) :
    s.react = some (s.note .restarting).startCycle := by
  unfold react revive
  rw [hp]
  have halive : s.backendAlive = false := by rw [backendAlive, hb]; rfl
  simp only [halive, Bool.false_eq_true, if_false]

theorem run_next (s : Session) : s.next.run = s.run := by
  unfold next step
  cases hs : s.react with
  | some s' => exact (run_of_react hs).symm
  | none =>
    dsimp only
    cases hw : s.wait with
    | some s' => exact (run_of_wait hs hw).symm
    | none => rfl

end Session

namespace Opening

open Session

variable (o : Opening)

/-- The rest of a run is the same from each of its states on. -/
theorem play_eq_run (k : Nat) : o.session.play = (o.state k).run := by
  induction k with
  | zero => rfl
  | succ k ih => rw [state_succ, run_next, ih]

theorem orderly (sorted : Due.Sorted o.world.agenda) (k : Nat) :
    Follows .none (o.state k) (o.state k) := by
  induction k with
  | succ k ih =>
    rw [state_succ]
    exact ih.next
  | zero =>
    obtain ⟨url, h⟩ := o.state_zero
    have hworld : (o.world.advanceTo o.world.now).Follows .none
        (o.world.advanceTo o.world.now) := by
      refine World.follows_self ?_ fun d hd hle => ?_
      · rw [World.advanceTo_agenda]
        exact sorted.beyond _
      · rw [World.advanceTo_agenda] at hd
        rw [World.advanceTo_now] at hle
        have := sorted.lt_of_mem_beyond hd
        omega
    rw [h]
    exact ⟨⟨rfl, rfl, rfl, hworld, rfl, rfl, rfl, rfl, rfl⟩, rfl⟩

/-- To be activated, with no window and no backend, is a fresh start: the rest of the run is the
run of a new session in what remains of the world, later by the time that has passed and with what
had been counted before. -/
theorem restarts_afresh (sorted : Due.Sorted o.world.agenda) {k : Nat} {w : World}
    (hp : (o.state k).phase = .hosting) (hl : (o.state k).nothingLeft = false)
    (hb : (o.state k).backend = none) (hw : (o.state k).windowOpen = false)
    (hr : (o.state k).world.receive = (w, .command .activate)) :
    ∃ r, Session.new o.config o.program w.remaining = .ok r ∧
      Continues (((o.state k).inWorld w).note .restarting).past o.session.play r.play := by
  let s := (((o.state k).inWorld w).inPhase .reviving).note .restarting
  have hrest := (Sound.hosting hp).1 (o.sound k)
  have hworld : w.Follows .none w := by
    have h := (o.orderly sorted k).world.receive
    rw [hr] at h
    cases h with
    | mk _ h => exact h
  have hrun : o.session.play = s.startCycle.run :=
    calc o.session.play
        = (o.state k).run := o.play_eq_run k
      _ = (((o.state k).inWorld w).inPhase .reviving).run :=
        run_of_react (react_activate hp hl hb hw hr)
      _ = s.startCycle.run := run_of_react (react_revive rfl hb)
  have hshutdown : s.shutdown = .new s.config.shutdownGrace := by
    have hgrace := o.grace_eq k
    rw [← o.config_eq k] at hgrace
    change (o.state k).shutdown = ⟨(o.state k).config.shutdownGrace, false⟩
    rw [← hgrace, ← hrest.unstopped]
  have hwindow : s.window = .new := by
    change (o.state k).window = ⟨false⟩
    rw [← hw]
    rfl
  have hafresh : o.session.inWorld w.remaining = s.afresh := by
    obtain ⟨url, ho⟩ := o.session_eq
    have hconfig : s.config = o.session.config := (o.account k).config
    have hlaunch : s.launch = o.session.launch := (o.account k).launch
    have htarget : s.targetUrl = o.session.targetUrl := (o.account k).target
    unfold afresh
    rw [hconfig, hlaunch, htarget, ho]
    rfl
  refine ⟨s.afresh, hafresh ▸ o.opened_in _, ?_⟩
  rw [hrun]
  exact startCycle_continues (s := s) hrest.mayBegin hb hwindow hshutdown hworld.sorted
    hworld.timely

/-- Each child crashes after five milliseconds, and what it wrote is read only later; after 100 ms
the session is activated, and after 300 ms it is to quit. -/
def crashingWorld : World :=
  { World.empty with
    files := ⟨[([[98]], .file true)]⟩
    childScripts := [{ ChildScript.inert with
      exit := some (5, some 3), stdout := some [⟨200, [120, 10], true, none⟩] }]
    agenda := [⟨100, .command .activate⟩, ⟨300, .command .quit⟩] }

def crashingRun : Opening where
  config := patient
  program := [47, 98]
  world := crashingWorld
  session := {
    config := patient
    launch := .forExecutable [47, 98] patient.backendEnv
    targetUrl := "http://localhost:8400/"
    world := crashingWorld
    machine := .new
    backend := none
    window := .new
    shutdown := .new patient.shutdownGrace
    errorsReported := 0
    phase := .launching }
  opened := by rfl
  childless := rfl
  blank := rfl

/-- Its second cycle is the first of a new session, later by 100 ms and after one error. -/
theorem crashing_restarts : ∃ r,
    Session.new patient [47, 98] (crashingRun.state 5).world.receive.1.remaining = .ok r ∧
      crashingRun.session.play.finishedAt? = r.play.finishedAt?.map (· + 100) ∧
      crashingRun.session.play.report.errorsReported = r.play.report.errorsReported + 1 ∧
      crashingRun.session.play.report.cycles = r.play.report.cycles + 1 := by
  have hsorted : Due.Sorted crashingRun.world.agenda := by decide
  obtain ⟨r, hnew, h⟩ := crashingRun.restarts_afresh hsorted (k := 5) rfl rfl rfl rfl rfl
  exact ⟨r, hnew, h.finished, h.errors, h.cycles⟩

end Opening
end DesktopHost
