import DesktopHost.Proofs.Opening

/-!
No child is left behind. Whoever has been spawned is held, or has been seen to end, or has been
stopped to the end; and the next one is spawned only when nobody is held any more.
-/

set_option autoImplicit false

namespace DesktopHost

theorem Quiet.spawns {es : List Event} (h : Quiet es) : es.countP Event.isSpawn = 0 := by
  simp only [List.countP_eq_zero, Bool.not_eq_true]
  exact fun e he => (h e he).1

namespace Session

variable {s s' : Session} {es : List Event}

/-- A step spawns at most one child, only where none is held, and then holds it. -/
theorem Turn.spawns (h : Turn s es s') : es.countP Event.isSpawn = 0 ∨
    es.countP Event.isSpawn = 1 ∧ s.backend = none ∧
      ((s'.world.child? s.world.children.length).isSome = true →
        ∃ b, s'.backend = some b ∧ b.child = s.world.children.length) := by
  cases h with
  | goesOn _ _ _ quiet => exact .inl quiet.spawns
  | stops _ _ _ quiet => exact .inl quiet.spawns
  | notices b r _ _ _ _ acts =>
    obtain ⟨rest, hq, rfl⟩ := acts
    refine .inl ?_
    rw [List.countP_append, hq.spawns, Nat.add_zero, List.countP_eq_zero]
    intro e he
    rw [(mem_crashActs he).1]
    exact Bool.false_ne_true
  | launchFails free _ fails =>
    obtain ⟨d, call, rfl, -, ⟨rfl, -⟩ | ⟨l, rfl, hnone⟩⟩ := fails.acts
    · exact .inl rfl
    · refine .inr ⟨rfl, free, fun hi => ?_⟩
      rw [hnone] at hi
      cases hi
  | launches b free _ launches =>
    obtain ⟨l, rfl⟩ := launches.acts
    exact .inr ⟨rfl, free, fun _ => ⟨b, launches.backend, launches.child⟩⟩

theorem Turn.keeps (h : Turn s es s') {b : Handle} (hb : s.backend = some b) :
    s'.backend = some b ∨ s'.backend = none := by
  cases h with
  | goesOn backend => exact .inl (backend.trans hb)
  | stops given => exact .inr given
  | notices _ _ _ _ given => exact .inr given
  | launchFails free => rw [hb] at free; cases free
  | launches _ free => rw [hb] at free; cases free

end Session

namespace Opening

open Session

variable (o : Opening)

/-- Child `i` needs no more care after `k` steps. -/
inductive Settled (k i : Nat) : Prop where
  /-- Its exit was noticed, and its handle given up. -/
  | seen (j : Nat) (b : Handle) (r : ExitReport) (before : j < k)
      (held : (o.state j).backend = some b) (child : b.child = i)
      (noticed : (o.state j).noticed? = some r) (given : (o.state (j + 1)).backend = none)
  /-- Its shutdown was run to the end, and its exit was seen there or it was sent the forceful
  signal. -/
  | stopped (j : Nat) (b : Handle) (w : World) (outcome : ShutdownOutcome) (before : j < k)
      (held : (o.state j).backend = some b) (child : b.child = i)
      (run : ((o.state j).shutdown.stop w b).2.2.2 = outcome) (done : outcome ≠ .skipped)
      (recorded : .note (.shutdownFinished outcome) ∈ o.news j)
      (sure : outcome.report.isSome = true ∨ .signal i .forceful ∈ o.news j)
      (given : (o.state (j + 1)).backend = none)

variable {o}

theorem Settled.mono {k m i : Nat} (h : o.Settled k i) (hm : k ≤ m) : o.Settled m i := by
  cases h with
  | seen j b r before held child noticed given =>
    exact .seen j b r (by omega) held child noticed given
  | stopped j b w outcome before held child run done recorded sure given =>
    exact .stopped j b w outcome (by omega) held child run done recorded sure given

variable (o)

end Opening
end DesktopHost
