import DesktopHost.Proofs.Opening
import Mathlib.Algebra.Order.BigOperators.Group.Finset

/-!
What the user is told of each startup cycle. A cycle that could not launch its child leads to one
dialog, so does the crash of its child if it is noticed, and nothing else does.
-/

set_option autoImplicit false

namespace DesktopHost

/-- The titles of the dialogs among some acts. -/
def titles (es : List Event) : List String :=
  es.filterMap fun
    | .dialog d => some d.title
    | _ => none

theorem titles_append (es fs : List Event) : titles (es ++ fs) = titles es ++ titles fs := by
  simp [titles]

theorem length_titles (es : List Event) : (titles es).length = es.countP Event.isDialog := by
  induction es with
  | nil => rfl
  | cons e es ih =>
    have happ := titles_append [e] es
    rw [List.singleton_append] at happ
    rw [happ, List.length_append, ih, List.countP_cons, Nat.add_comm]
    cases e <;> rfl

theorem Quiet.titles {es : List Event} (h : Quiet es) : titles es = [] := by
  rw [← List.length_eq_zero_iff, length_titles, List.countP_eq_zero]
  exact fun e he => by rw [(h e he).2.1]; exact Bool.false_ne_true

theorem during_launch {fs : List Event} (h : ∀ e ∈ fs, e.isBegin = false) (n c : Nat)
    (r : List Event) : during n (fs ++ [.note (.cycleBegun c)] ++ r) =
      if begun r + 1 = n then fs ++ [.note (.cycleBegun c)] else during n r := by
  rw [List.append_assoc, List.singleton_append, during_append h, begun_cons_begin, during_begin]
  split <;> rfl

namespace Session

variable {s s' : Session} {es : List Event}

theorem Turn.split (h : Turn s es s') :
    s'.machine.cycle = s.machine.cycle ∧ (∀ e ∈ es, e.isSpawn = false ∧ e.isBegin = false) ∨
    s'.machine.cycle = s.machine.cycle + 1 ∧ (∃ fs c, es = fs ++ [.note (.cycleBegun c)] ∧
      ∀ e ∈ fs, e.isBegin = false) ∧
      ∀ i l, .spawn i l ∈ es → i = s.world.children.length := by
  cases h with
  | goesOn _ cycle _ quiet => exact .inl ⟨cycle, fun e he => ⟨(quiet e he).1, (quiet e he).2.2⟩⟩
  | stops _ cycle _ quiet => exact .inl ⟨cycle, fun e he => ⟨(quiet e he).1, (quiet e he).2.2⟩⟩
  | notices b r _ _ _ cycle acts =>
    obtain ⟨rest, hq, rfl⟩ := acts
    refine .inl ⟨cycle, fun e he => ?_⟩
    rcases List.mem_append.1 he with he | he
    · rw [(mem_crashActs he).1]
      exact ⟨rfl, rfl⟩
    · exact ⟨(hq e he).1, (hq e he).2.2⟩
  | launchFails _ _ fails =>
    obtain ⟨d, call, rfl, -, hcall⟩ := fails.acts
    refine .inr ⟨by rw [fails.machine], ⟨_, _, rfl, ?_⟩, ?_⟩
    · obtain ⟨rfl, -⟩ | ⟨l, rfl, -⟩ := hcall <;> simp [Event.isBegin]
    · obtain ⟨rfl, -⟩ | ⟨l, rfl, -⟩ := hcall
      · simp
      · simp +contextual
  | launches b _ _ launches =>
    obtain ⟨l, rfl⟩ := launches.acts
    refine .inr ⟨by rw [launches.machine], ⟨[_, _], _, rfl, ?_⟩, ?_⟩
    · simp [Event.isBegin]
    · rw [← launches.child]
      simp +contextual

theorem noticed?_of_free (h : s.backend = none) : s.noticed? = none := by
  unfold noticed?
  split
  · rw [backendExit?, h]
    rfl
  · rw [backendExit?, h]
    rfl
  · rfl

end Session

namespace Opening

open Session

variable (o : Opening)

/-- Cycle `n` has begun, but its executable is missing, or the spawn call failed. -/
def LaunchFailed (k n : Nat) : Prop :=
  1 ≤ n ∧ n ≤ (o.state k).machine.cycle ∧
    (o.world.files.has o.world.cwd o.session.launch.program = false ∨
      ∃ i l, .spawn i l ∈ during n (o.story k) ∧ (o.state k).world.child? i = none)

/-- The session has noticed that the child of cycle `n` ended in another way than with code 0. -/
def Crashed (k n : Nat) : Prop :=
  ∃ j b l r, j < k ∧ (o.state j).backend = some b ∧ .spawn b.child l ∈ during n (o.story k) ∧
    (o.state j).noticed? = some r ∧ r.code ≠ some 0

theorem during_succ (k n : Nat) :
    (o.state (k + 1)).machine.cycle = (o.state k).machine.cycle ∧
      (∀ e ∈ o.news k, e.isSpawn = false) ∧
      during n (o.story (k + 1)) = (if (o.state k).machine.cycle = n then
        o.news k ++ during n (o.story k) else during n (o.story k)) ∨
    (o.state (k + 1)).machine.cycle = (o.state k).machine.cycle + 1 ∧
      (∀ i l, .spawn i l ∈ o.news k → i = (o.state k).world.children.length) ∧
      during n (o.story (k + 1)) =
        if (o.state k).machine.cycle + 1 = n then o.news k else during n (o.story k) := by
  rw [story_succ, ← o.begun_story k]
  obtain ⟨hc, hq⟩ | ⟨hc, ⟨fs, c, he, hfs⟩, hi⟩ := (o.stepped k).turn.split
  · rw [o.begun_story]
    refine .inl ⟨hc, fun e he => (hq e he).1, ?_⟩
    rw [during_append fun e he => (hq e he).2, o.begun_story]
  · rw [o.begun_story]
    refine .inr ⟨hc, hi, ?_⟩
    rw [he, during_launch hfs, o.begun_story]

theorem spawn_of_during_succ {k n i : Nat} {l : Launch}
    (h : .spawn i l ∈ during n (o.story (k + 1))) : .spawn i l ∈ during n (o.story k) ∨
      n = (o.state k).machine.cycle + 1 ∧ i = (o.state k).world.children.length := by
  obtain ⟨-, hq, hd⟩ | ⟨-, hi, hd⟩ := o.during_succ k n
  · rw [hd] at h
    split at h
    · exact .inl ((List.mem_append.1 h).resolve_left fun h => by cases hq _ h)
    · exact .inl h
  · rw [hd] at h
    split at h
    · next hn => exact .inr ⟨hn.symm, hi i l h⟩
    · exact .inl h

theorem spawn_mem_during_succ {k n : Nat} (hn : n ≤ (o.state k).machine.cycle) (i : Nat)
    (l : Launch) :
    .spawn i l ∈ during n (o.story (k + 1)) ↔ .spawn i l ∈ during n (o.story k) := by
  refine ⟨fun h => (o.spawn_of_during_succ h).resolve_right (by omega), fun h => ?_⟩
  obtain ⟨-, -, hd⟩ | ⟨-, -, hd⟩ := o.during_succ k n
  · rw [hd]
    split
    · exact List.mem_append_right _ h
    · exact h
  · rw [hd, if_neg (by omega)]
    exact h

theorem mem_story_of_during {k n : Nat} {e : Event} (h : e ∈ during n (o.story k)) :
    e ∈ o.story k := (during_sublist n _).subset h

theorem spawn_lt {k i : Nat} {l : Launch} (h : .spawn i l ∈ o.story k) :
    i < (o.state k).world.children.length := by
  induction k with
  | zero =>
    rw [story_zero] at h
    cases h
  | succ k ih =>
    have hs := (o.stepped k).account.world.spawned
    rw [story_succ, List.mem_append] at h
    rcases h with h | h
    · have hpos : 0 < (o.news k).countP Event.isSpawn := List.countP_pos_iff.2 ⟨_, h, rfl⟩
      obtain ⟨-, hq, -⟩ | ⟨-, hi, -⟩ := o.during_succ k 0
      · cases hq _ h
      · rw [hi i l h]
        omega
    · have := ih h
      omega

/-- No child belongs to two cycles. -/
theorem spawn_cycle_unique {k i n m : Nat} {l l' : Launch}
    (h : .spawn i l ∈ during n (o.story k)) (h' : .spawn i l' ∈ during m (o.story k)) :
    n = m := by
  induction k with
  | zero =>
    rw [story_zero] at h
    cases h
  | succ k ih =>
    -- two spawns of one number are both old or both of this step, as numbers only grow
    rcases o.spawn_of_during_succ h with h | ⟨hn, hi⟩ <;>
      rcases o.spawn_of_during_succ h' with h' | ⟨hm, hi'⟩
    · exact ih h h'
    · have := o.spawn_lt (o.mem_story_of_during h)
      omega
    · have := o.spawn_lt (o.mem_story_of_during h')
      omega
    · omega

theorem not_spawn_zero (k i : Nat) (l : Launch) : .spawn i l ∉ during 0 (o.story k) := by
  induction k with
  | zero =>
    rw [story_zero]
    exact List.not_mem_nil
  | succ k ih => exact fun h => ih ((o.spawn_mem_during_succ (Nat.zero_le _) i l).1 h)

/-- Whoever is held was spawned in the present cycle, of which nothing has been told so far. -/
theorem held_in_cycle (k : Nat) : ∀ b, (o.state k).backend = some b →
    (∃ l, .spawn b.child l ∈ during (o.state k).machine.cycle (o.story k)) ∧
    titles (during (o.state k).machine.cycle (o.story k)) = [] := by
  induction k with
  | zero =>
    intro b hb
    obtain ⟨url, h⟩ := o.state_zero
    rw [h] at hb
    cases hb
  | succ k ih =>
    intro b hb
    have hd := o.during_succ k (o.state (k + 1)).machine.cycle
    cases (o.stepped k).turn with
    | goesOn backend cycle _ quiet =>
      obtain ⟨-, -, hd⟩ | ⟨hc, -⟩ := hd
      · obtain ⟨⟨l, hl⟩, ht⟩ := ih b (backend.symm.trans hb)
        rw [hd, cycle, if_pos rfl, titles_append, quiet.titles, ht]
        exact ⟨⟨l, List.mem_append_right _ hl⟩, rfl⟩
      · omega
    | launches b' _ _ launches =>
      cases launches.backend.symm.trans hb
      obtain ⟨l, hl⟩ := launches.acts
      have hc : (o.state (k + 1)).machine.cycle = (o.state k).machine.cycle + 1 := by
        rw [launches.machine]
      obtain ⟨hc', -⟩ | ⟨-, -, hd⟩ := hd
      · omega
      · rw [hd, if_pos hc.symm, hl]
        exact ⟨⟨l, by simp⟩, rfl⟩
    | launchFails _ _ fails => rw [fails.backend] at hb; cases hb
    | notices _ _ _ _ given => rw [given] at hb; cases hb
    | stops given => rw [given] at hb; cases hb

theorem held_lt {j k : Nat} (hjk : j ≤ k) {b : Handle} (hb : (o.state j).backend = some b) :
    b.child < (o.state k).world.children.length := by
  obtain ⟨⟨l, hl⟩, -⟩ := o.held_in_cycle j b hb
  exact (o.known_mono (o.spawn_lt (o.mem_story_of_during hl)) hjk).1

variable {o} {k n : Nat}

theorem launchFailed_succ (hn : n ≤ (o.state k).machine.cycle) :
    o.LaunchFailed (k + 1) n ↔ o.LaunchFailed k n := by
  have hc : (o.state k).machine.cycle ≤ (o.state (k + 1)).machine.cycle := by
    obtain ⟨hc, -⟩ | ⟨hc, -⟩ := o.during_succ k n <;> omega
  have hknown {i : Nat} {l : Launch} (h : .spawn i l ∈ during n (o.story k)) :
      (o.state (k + 1)).world.child? i = none ↔ (o.state k).world.child? i = none := by
    have hk := (o.known_mono (o.spawn_lt (o.mem_story_of_during h)) (Nat.le_succ k)).2
    rw [← Option.not_isSome_iff_eq_none, hk, Option.not_isSome_iff_eq_none]
  constructor
  · rintro ⟨h1, -, hf | ⟨i, l, hm, hi⟩⟩
    · exact ⟨h1, hn, .inl hf⟩
    · have hm := (o.spawn_mem_during_succ hn i l).1 hm
      exact ⟨h1, hn, .inr ⟨i, l, hm, (hknown hm).1 hi⟩⟩
  · rintro ⟨h1, -, hf | ⟨i, l, hm, hi⟩⟩
    · exact ⟨h1, by omega, .inl hf⟩
    · exact ⟨h1, by omega, .inr ⟨i, l, (o.spawn_mem_during_succ hn i l).2 hm, (hknown hm).2 hi⟩⟩

theorem crashed_succ (hn : n ≤ (o.state k).machine.cycle) :
    o.Crashed (k + 1) n ↔ o.Crashed k n ∨ ∃ b l r, (o.state k).backend = some b ∧
      .spawn b.child l ∈ during n (o.story k) ∧ (o.state k).noticed? = some r ∧
      r.code ≠ some 0 := by
  constructor
  · rintro ⟨j, b, l, r, hj, hb, hm, hr, hcode⟩
    have hm := (o.spawn_mem_during_succ hn b.child l).1 hm
    rcases Nat.lt_succ_iff_lt_or_eq.1 hj with hj | rfl
    · exact .inl ⟨j, b, l, r, hj, hb, hm, hr, hcode⟩
    · exact .inr ⟨b, l, r, hb, hm, hr, hcode⟩
  · rintro (⟨j, b, l, r, hj, hb, hm, hr, hcode⟩ | ⟨b, l, r, hb, hm, hr, hcode⟩)
    · have hm := (o.spawn_mem_during_succ hn b.child l).2 hm
      exact ⟨j, b, l, r, by omega, hb, hm, hr, hcode⟩
    · have hm := (o.spawn_mem_during_succ hn b.child l).2 hm
      exact ⟨k, b, l, r, Nat.lt_succ_self k, hb, hm, hr, hcode⟩

theorem crashed_succ_of_calm (hn : n ≤ (o.state k).machine.cycle)
    (hr : ∀ r, (o.state k).noticed? = some r → r.code = some 0) :
    o.Crashed (k + 1) n ↔ o.Crashed k n := by
  rw [crashed_succ hn]
  refine or_iff_left ?_
  rintro ⟨b, l, r, -, -, hs, hcode⟩
  exact hcode (hr r hs)

variable (o) in
/-- The dialogs of cycle `n` so far are what its launch and its child's end call for. -/
def Told (k n : Nat) : Prop :=
  (o.LaunchFailed k n → titles (during n (o.story k)) = [Problem.initializationTitle]) ∧
  (o.Crashed k n → titles (during n (o.story k)) = [Problem.backendTitle]) ∧
  (¬o.LaunchFailed k n → ¬o.Crashed k n → titles (during n (o.story k)) = [])

theorem told_of_lt (h : (o.state k).machine.cycle < n) : o.Told k n := by
  have hd : during n (o.story k) = [] := during_of_begun_lt (by rw [o.begun_story]; exact h)
  refine ⟨fun hl => absurd hl.2.1 (by omega), ?_, fun _ _ => by rw [hd]; rfl⟩
  rintro ⟨j, b, l, r, -, -, hm, -⟩
  rw [hd] at hm
  cases hm

theorem Told.succ (h : o.Told k n) (hn : n ≤ (o.state k).machine.cycle)
    (hr : ∀ r, (o.state k).noticed? = some r → r.code = some 0)
    (ht : titles (during n (o.story (k + 1))) = titles (during n (o.story k))) :
    o.Told (k + 1) n := by
  unfold Told
  rw [launchFailed_succ hn, crashed_succ_of_calm hn hr, ht]
  exact h

theorem titles_during_succ (hq : titles (o.news k) = [])
    (hc : (o.state (k + 1)).machine.cycle = (o.state k).machine.cycle) (n : Nat) :
    titles (during n (o.story (k + 1))) = titles (during n (o.story k)) := by
  obtain ⟨-, -, hd⟩ | ⟨hc', -⟩ := o.during_succ k n
  · rw [hd]
    split
    · rw [titles_append, hq, List.nil_append]
    · rfl
  · omega

theorem not_crashed_of_begun : ¬o.Crashed (k + 1) ((o.state k).machine.cycle + 1) := by
  rintro ⟨j, b, l, r, hj, hb, hm, -⟩
  rcases o.spawn_of_during_succ hm with hm | ⟨-, hi⟩
  · rw [during_of_begun_lt (by rw [o.begun_story]; exact Nat.lt_succ_self _)] at hm
    cases hm
  · have := o.held_lt (Nat.le_of_lt_succ hj) hb
    omega

theorem during_begun (h : (o.state (k + 1)).machine.cycle = (o.state k).machine.cycle + 1) :
    during ((o.state k).machine.cycle + 1) (o.story (k + 1)) = o.news k := by
  obtain ⟨hc, -⟩ | ⟨-, -, hd⟩ := o.during_succ k ((o.state k).machine.cycle + 1)
  · omega
  · rw [hd, if_pos rfl]

theorem has_program (k : Nat) : (o.state k).world.files.has (o.state k).world.cwd
    (o.state k).launch.program = o.world.files.has o.world.cwd o.session.launch.program := by
  obtain ⟨url, h⟩ := o.session_eq
  rw [(o.files_eq k).1, (o.files_eq k).2, o.launch_eq k, h]

theorem told_of_launchFails (fails : LaunchFails (o.state k) (o.news k) (o.state (k + 1))) :
    o.Told (k + 1) ((o.state k).machine.cycle + 1) := by
  have hc : (o.state (k + 1)).machine.cycle = (o.state k).machine.cycle + 1 := by
    rw [fails.machine]
  obtain ⟨d, call, he, ht, hcall⟩ := fails.acts
  have hd := during_begun hc
  have htitles : titles (o.news k) = [Problem.initializationTitle] := by
    rw [he]
    obtain ⟨rfl, -⟩ | ⟨l, rfl, -⟩ := hcall <;> simp [titles, ht]
  have hf : o.LaunchFailed (k + 1) ((o.state k).machine.cycle + 1) := by
    refine ⟨by omega, by omega, ?_⟩
    rw [hd]
    obtain ⟨-, hm⟩ | ⟨l, hl, hnone⟩ := hcall
    · exact .inl ((has_program k).symm.trans hm)
    · exact .inr ⟨_, l, by rw [he, hl]; simp, hnone⟩
  rw [Told, hd]
  exact ⟨fun _ => htitles, fun h => absurd h not_crashed_of_begun, fun h => absurd hf h⟩

theorem told_of_launches {b : Handle}
    (launches : Launches (o.state k) (o.news k) (o.state (k + 1)) b) :
    o.Told (k + 1) ((o.state k).machine.cycle + 1) := by
  have hc : (o.state (k + 1)).machine.cycle = (o.state k).machine.cycle + 1 := by
    rw [launches.machine]
  have hd := during_begun hc
  have htitles : titles (o.news k) = [] := by
    obtain ⟨l, he⟩ := launches.acts
    rw [he]
    rfl
  have hf : ¬o.LaunchFailed (k + 1) ((o.state k).machine.cycle + 1) := by
    rintro ⟨-, -, hm | ⟨i, l, hm, hi⟩⟩
    · rw [← has_program k, launches.found] at hm
      cases hm
    · rw [hd] at hm
      obtain ⟨l', he⟩ := launches.acts
      have hib : i = b.child := by
        rw [he] at hm
        simp only [List.mem_cons, reduceCtorEq, Event.spawn.injEq, List.not_mem_nil] at hm
        tauto
      have := launches.known
      rw [← hib, hi] at this
      cases this
  rw [Told, hd]
  exact ⟨fun h => absurd h hf, fun h => absurd h not_crashed_of_begun, fun _ _ => htitles⟩

/-- A crash is told of once, and only in the cycle of the child that crashed. -/
theorem Told.succ_of_crash (h : o.Told k n) (hn : n ≤ (o.state k).machine.cycle) {b : Handle}
    {r : ExitReport} (hb : (o.state k).backend = some b) (hr : (o.state k).noticed? = some r)
    (hcode : r.code ≠ some 0) (ht : titles (o.news k) = [Problem.backendTitle])
    (hc : (o.state (k + 1)).machine.cycle = (o.state k).machine.cycle) : o.Told (k + 1) n := by
  obtain ⟨⟨l, hl⟩, hnone⟩ := o.held_in_cycle k b hb
  obtain ⟨-, -, hd⟩ | ⟨hc', -⟩ := o.during_succ k n
  · -- the child that crashed was spawned in the present cycle, and in no other
    by_cases hnc : (o.state k).machine.cycle = n
    · subst hnc
      have hcrash : o.Crashed (k + 1) (o.state k).machine.cycle :=
        (crashed_succ (Nat.le_refl _)).2 (.inr ⟨b, l, r, hb, hl, hr, hcode⟩)
      have hf : ¬o.LaunchFailed (k + 1) (o.state k).machine.cycle := by
        rw [launchFailed_succ (Nat.le_refl _)]
        intro hf
        have := h.1 hf
        rw [hnone] at this
        cases this
      have htold : titles (during (o.state k).machine.cycle (o.story (k + 1))) =
          [Problem.backendTitle] := by
        rw [hd, if_pos rfl, titles_append, ht, hnone]
        rfl
      exact ⟨fun h => absurd h hf, fun _ => htold, fun _ h => absurd hcrash h⟩
    · have hother : o.Crashed (k + 1) n ↔ o.Crashed k n := by
        rw [crashed_succ hn]
        refine or_iff_left ?_
        rintro ⟨b', l', r', hb', hm, -⟩
        cases hb.symm.trans hb'
        exact hnc (o.spawn_cycle_unique hl hm)
      unfold Told
      rw [launchFailed_succ hn, hother, hd, if_neg hnc]
      exact h
  · omega

theorem crash_titles {r : ExitReport} {rest es : List Event} (hq : Quiet rest)
    (he : es = crashActs r ++ rest) :
    titles es = if r.code = some 0 then [] else [Problem.backendTitle] := by
  rw [he, titles_append, hq.titles, crashActs]
  by_cases hs : r.isSuccess = true
  · rw [if_pos hs, if_pos (r.isSuccess_iff.1 hs)]
    rfl
  · rw [if_neg hs, if_neg fun h => hs (r.isSuccess_iff.2 h)]
    rfl

theorem Told.succ_of_begun (h : o.Told k n) (hn : n ≤ (o.state k).machine.cycle)
    (hfree : (o.state k).backend = none)
    (hc : (o.state (k + 1)).machine.cycle = (o.state k).machine.cycle + 1) :
    o.Told (k + 1) n := by
  refine h.succ hn (fun r hr => ?_) ?_
  · rw [noticed?_of_free hfree] at hr
    cases hr
  · obtain ⟨hc', -⟩ | ⟨-, -, hd⟩ := o.during_succ k n
    · omega
    · rw [hd, if_neg (by omega)]

variable (o) in
theorem told (k : Nat) : ∀ n, o.Told k n := by
  induction k with
  | zero =>
    intro n
    have hd : during n (o.story 0) = [] := by
      rw [story_zero]
      rfl
    refine ⟨fun hf => ?_, fun hcr => ?_, fun _ _ => by rw [hd]; rfl⟩
    · obtain ⟨url, h⟩ := o.state_zero
      have h1 := hf.1
      have h2 : n ≤ (o.state 0).machine.cycle := hf.2.1
      rw [h] at h2
      exact absurd h2 (Nat.not_le.2 h1)
    · obtain ⟨j, b, l, r, hj, -⟩ := hcr
      exact absurd hj (Nat.not_lt_zero j)
  | succ k ih =>
    intro n
    by_cases hlate : (o.state (k + 1)).machine.cycle < n
    · exact told_of_lt hlate
    · cases (o.stepped k).turn with
      | goesOn _ cycle unseen quiet =>
        exact (ih n).succ (by omega) (fun r hr => by rw [unseen] at hr; cases hr)
          (titles_during_succ quiet.titles cycle n)
      | stops _ cycle unseen quiet =>
        exact (ih n).succ (by omega) (fun r hr => by rw [unseen] at hr; cases hr)
          (titles_during_succ quiet.titles cycle n)
      | notices b r held seen _ cycle acts =>
        obtain ⟨rest, hq, he⟩ := acts
        have ht := crash_titles hq he
        by_cases hcode : r.code = some 0
        · rw [if_pos hcode] at ht
          refine (ih n).succ (by omega) (fun r' hr' => ?_) (titles_during_succ ht cycle n)
          cases seen.symm.trans hr'
          exact hcode
        · rw [if_neg hcode] at ht
          exact (ih n).succ_of_crash (by omega) held seen hcode ht cycle
      | launchFails free _ fails =>
        by_cases hn : n = (o.state k).machine.cycle + 1
        · rw [hn]
          exact told_of_launchFails fails
        · have hc : (o.state (k + 1)).machine.cycle = (o.state k).machine.cycle + 1 := by
            rw [fails.machine]
          exact (ih n).succ_of_begun (by omega) free hc
      | launches b free _ launches =>
        by_cases hn : n = (o.state k).machine.cycle + 1
        · rw [hn]
          exact told_of_launches launches
        · have hc : (o.state (k + 1)).machine.cycle = (o.state k).machine.cycle + 1 := by
            rw [launches.machine]
          exact (ih n).succ_of_begun (by omega) free hc

variable (o)

theorem countP_isDialog_during_le (k n : Nat) :
    (during n (o.story k)).countP Event.isDialog ≤ 1 := by
  obtain ⟨hf, hc, hn⟩ := o.told k n
  rw [← length_titles]
  by_cases h : o.LaunchFailed k n
  · rw [hf h]; exact Nat.le_refl 1
  · by_cases h' : o.Crashed k n
    · rw [hc h']; exact Nat.le_refl 1
    · rw [hn h h']; exact Nat.zero_le 1

/-- No child is spawned before the first cycle, so none can crash. -/
theorem countP_isDialog_during_zero (k : Nat) :
    (during 0 (o.story k)).countP Event.isDialog = 0 := by
  rw [← length_titles, (o.told k 0).2.2]
  · rfl
  · exact fun h => absurd h.1 (by omega)
  · rintro ⟨j, b, l, r, -, -, hm, -⟩
    exact o.not_spawn_zero k b.child l hm

theorem dialogs_le_cycles (k : Nat) :
    (o.story k).countP Event.isDialog ≤ (o.state k).machine.cycle := by
  rw [countP_eq_sum_during, Finset.sum_range_succ', o.countP_isDialog_during_zero, o.begun_story,
    Nat.add_zero]
  calc ∑ n ∈ Finset.range (o.state k).machine.cycle,
        (during (n + 1) (o.story k)).countP Event.isDialog
      ≤ ∑ _n ∈ Finset.range (o.state k).machine.cycle, 1 :=
        Finset.sum_le_sum fun n _ => o.countP_isDialog_during_le k (n + 1)
    _ = (o.state k).machine.cycle := by simp

theorem errorsReported_eq (k : Nat) : (o.state k).errorsReported =
    returned o.world.panics ((o.story k).countP Event.isDialog) := by
  obtain ⟨url, h⟩ := o.state_zero
  have hp : (o.state 0).world.panics = o.world.panics := o.later_zero.panics
  rw [(o.account k).errors, hp, h]
  exact Nat.zero_add _

/-- A dialog is shown only by a step that begins a cycle without launching its child, or one that
notices a crash. -/
theorem dialog_cause {k : Nat} {d : Dialog} (hd : .dialog d ∈ o.news k) :
    (o.state (k + 1)).machine.cycle = (o.state k).machine.cycle + 1 ∧
      (o.state (k + 1)).backend = none ∨
    ∃ r, (o.state k).noticed? = some r ∧ r.code ≠ some 0 := by
  cases (o.stepped k).turn with
  | goesOn _ _ _ quiet => cases (quiet _ hd).2.1
  | stops _ _ _ quiet => cases (quiet _ hd).2.1
  | launchFails _ _ fails => exact .inl ⟨by rw [fails.machine], fails.backend⟩
  | launches b _ _ launches =>
    obtain ⟨l, he⟩ := launches.acts
    rw [he] at hd
    simp at hd
  | notices b r _ seen _ _ acts =>
    obtain ⟨rest, hq, he⟩ := acts
    refine .inr ⟨r, seen, fun hcode => ?_⟩
    rw [he] at hd
    rcases List.mem_append.1 hd with hd | hd
    · have := (mem_crashActs hd).2
      rw [r.isSuccess_iff.2 hcode] at this
      cases this
    · cases (hq _ hd).2.1

/-- Every cycle is told of exactly as its launch and its child's end call for: once if it could
not launch its child, or its child's crash was noticed, and else not at all. So there are no more
dialogs than cycles, and those that came back are counted. -/
theorem dialogs_accounted_for (k : Nat) :
    (∀ n, (o.LaunchFailed k n →
        titles (during n (o.story k)) = [Problem.initializationTitle]) ∧
      (o.Crashed k n → titles (during n (o.story k)) = [Problem.backendTitle]) ∧
      (¬o.LaunchFailed k n → ¬o.Crashed k n → titles (during n (o.story k)) = [])) ∧
    (o.story k).countP Event.isDialog ≤ (o.state k).machine.cycle ∧
    (∀ d, .dialog d ∈ o.news k →
      (o.state (k + 1)).machine.cycle = (o.state k).machine.cycle + 1 ∧
        (o.state (k + 1)).backend = none ∨
      ∃ r, (o.state k).noticed? = some r ∧ r.code ≠ some 0) ∧
    (o.state k).report.errorsReported =
      returned o.world.panics ((o.story k).countP Event.isDialog) :=
  ⟨o.told k, o.dialogs_le_cycles k, fun _ => o.dialog_cause, o.errorsReported_eq k⟩

example : (Session.new (.forMode .production) [] .empty).toOption.map
    (fun s => titles s.next.world.acts) = some [Problem.initializationTitle] := by rfl

example : (Session.new (.forMode .production) [47, 98] { World.empty with
      files := ⟨[([[98]], .file true)]⟩
      childScripts := [{ ChildScript.inert with exit := some (5, some 3) }] }).toOption.map
    (fun s => titles (Session.next^[8] s).world.acts) = some [Problem.backendTitle] := by rfl

end Opening
end DesktopHost
