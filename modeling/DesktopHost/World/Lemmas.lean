import DesktopHost.World.Basic

/-!
What the operations of a world leave alone: the agenda, the clock and the number of commands
still to be handled.
-/

set_option autoImplicit false

namespace DesktopHost.World

variable (w : World)

@[simp] theorem emit_agenda (e : Event) : (w.emit e).agenda = w.agenda := rfl
@[simp] theorem emit_now (e : Event) : (w.emit e).now = w.now := rfl
@[simp] theorem emit_queue (e : Event) : (w.emit e).queue = w.queue := rfl
@[simp] theorem note_now (n : Note) : (w.note n).now = w.now := rfl
@[simp] theorem note_queue (n : Note) : (w.note n).queue = w.queue := rfl

@[simp] theorem updateChild_now (i : Nat) (f : Child → Child) :
    (w.updateChild i f).now = w.now := rfl

theorem readLine_frame (i : Nat) (stream : StreamKind) (text : String) :
    (w.readLine i stream text).agenda = w.agenda ∧ (w.readLine i stream text).now = w.now ∧
      (w.readLine i stream text).queue = w.queue := by
  unfold readLine
  split
  · exact ⟨rfl, rfl, rfl⟩
  · cases stream with
    | stderr => exact ⟨rfl, rfl, rfl⟩
    | stdout => dsimp only; split <;> exact ⟨rfl, rfl, rfl⟩

@[simp] theorem occur_agenda (o : Occurrence) : (w.occur o).agenda = w.agenda := by
  cases o with
  | command c => simp only [occur, sendCommand]; split <;> (try split) <;> rfl
  | line i s t => exact (readLine_frame w i s t).1
  | _ => rfl

@[simp] theorem occur_now (o : Occurrence) : (w.occur o).now = w.now := by
  cases o with
  | command c => simp only [occur, sendCommand]; split <;> (try split) <;> rfl
  | line i s t => exact (readLine_frame w i s t).2.1
  | _ => rfl

/-- Only a command lengthens the queue, and by one at most. -/
theorem occur_queue_length (o : Occurrence) :
    (w.occur o).queue.length ≤
      w.queue.length + (match o with | .command _ => 1 | _ => 0) := by
  cases o with
  | command c =>
    simp only [occur, sendCommand]
    split
    · split <;> simp
    · simp
  | line i s t => simp [occur, (readLine_frame w i s t).2.2]
  | _ => exact Nat.le_refl _

@[simp] theorem meet_agenda (d : Due) : (w.meet d).agenda = w.agenda := by simp [meet]

theorem meet_now (d : Due) : (w.meet d).now = max w.now d.time := by simp [meet]

theorem meet_queue_length (d : Due) :
    (w.meet d).queue.length ≤ w.queue.length + (if d.isCommand then 1 else 0) := by
  have h := occur_queue_length { w with now := max w.now d.time } d.what
  unfold meet Due.isCommand
  cases hd : d.what <;> simp_all

@[simp] theorem foldl_meet_agenda (ds : List Due) : (ds.foldl meet w).agenda = w.agenda := by
  induction ds generalizing w with
  | nil => rfl
  | cons d r ih => rw [List.foldl_cons, ih, meet_agenda]

theorem foldl_meet_queue_length (ds : List Due) :
    (ds.foldl meet w).queue.length ≤ w.queue.length + ds.countP Due.isCommand := by
  induction ds generalizing w with
  | nil => simp
  | cons d r ih =>
    rw [List.foldl_cons, List.countP_cons]
    have h₁ := ih (w.meet d)
    have h₂ := meet_queue_length w d
    omega

theorem foldl_meet_now_le (ds : List Due) (t : Nat) (h : ∀ d ∈ ds, d.time ≤ t) :
    (ds.foldl meet w).now ≤ max w.now t := by
  induction ds generalizing w with
  | nil => simp only [List.foldl_nil]; omega
  | cons d r ih =>
    rw [List.foldl_cons]
    have h₁ := ih (w.meet d) fun x hx => h x (List.mem_cons_of_mem _ hx)
    have h₂ := h d List.mem_cons_self
    rw [meet_now] at h₁
    omega

theorem le_foldl_meet_now (ds : List Due) : w.now ≤ (ds.foldl meet w).now := by
  induction ds generalizing w with
  | nil => exact Nat.le_refl _
  | cons d r ih =>
    rw [List.foldl_cons]
    have h := ih (w.meet d)
    rw [meet_now] at h
    omega

theorem mem_takeWhile_time {agenda : List Due} {t : Nat} {d : Due}
    (h : d ∈ agenda.takeWhile fun d => d.time ≤ t) : d.time ≤ t := by
  have hall := List.all_takeWhile (p := fun d : Due => decide (d.time ≤ t)) (l := agenda)
  exact of_decide_eq_true (List.all_eq_true.1 hall d h)

@[simp] theorem advanceTo_agenda (t : Nat) :
    (w.advanceTo t).agenda = w.agenda.dropWhile fun d => d.time ≤ t := by
  simp [advanceTo]

theorem advanceTo_now (t : Nat) : (w.advanceTo t).now = max w.now t := by
  unfold advanceTo
  have h := foldl_meet_now_le { w with agenda := w.agenda.dropWhile fun d => d.time ≤ t }
    (w.agenda.takeWhile fun d => d.time ≤ t) t fun d hd => mem_takeWhile_time hd
  have h' := le_foldl_meet_now { w with agenda := w.agenda.dropWhile fun d => d.time ≤ t }
    (w.agenda.takeWhile fun d => d.time ≤ t)
  dsimp only at h h' ⊢
  omega

theorem advanceTo_agenda_length_le (t : Nat) :
    (w.advanceTo t).agenda.length ≤ w.agenda.length := by
  rw [advanceTo_agenda]
  exact (List.dropWhile_suffix _).length_le

/-- Whatever is due first is met. -/
theorem advanceTo_agenda_length_lt (t : Nat) (d : Due) (rest : List Due)
    (h : w.agenda = d :: rest) (ht : d.time ≤ t) :
    (w.advanceTo t).agenda.length < w.agenda.length := by
  rw [advanceTo_agenda, h, List.dropWhile_cons]
  simp only [ht, decide_true, if_true, List.length_cons]
  have := (List.dropWhile_suffix (l := rest) fun d : Due => decide (d.time ≤ t)).length_le
  omega

/-- Time brings commands from the agenda to the queue, and adds none. -/
theorem advanceTo_commandsLeft_le (t : Nat) : (w.advanceTo t).commandsLeft ≤ w.commandsLeft := by
  unfold commandsLeft
  rw [advanceTo_agenda]
  have hq := foldl_meet_queue_length { w with agenda := w.agenda.dropWhile fun d => d.time ≤ t }
    (w.agenda.takeWhile fun d => d.time ≤ t)
  have hsplit : w.agenda.countP Due.isCommand =
      (w.agenda.takeWhile fun d => d.time ≤ t).countP Due.isCommand +
      (w.agenda.dropWhile fun d => d.time ≤ t).countP Due.isCommand := by
    rw [← List.countP_append, List.takeWhile_append_dropWhile]
  have : (w.advanceTo t).queue = ((w.agenda.takeWhile fun d => d.time ≤ t).foldl meet
      { w with agenda := w.agenda.dropWhile fun d => d.time ≤ t }).queue := rfl
  rw [this]
  dsimp only at hq
  omega

theorem schedule_commandsLeft (ds : List Due) (h : ∀ d ∈ ds, d.isCommand = false) :
    (w.schedule ds).commandsLeft = w.commandsLeft := by
  simp only [commandsLeft, schedule]
  rw [Due.countP_insertAll _ _ _ h]

theorem isCommand_linesDue (now i : Nat) (s : StreamKind) (chunks : Option (List Chunk)) :
    ∀ d ∈ linesDue now i s chunks, d.isCommand = false := by
  intro d hd
  simp only [linesDue, List.mem_map] at hd
  obtain ⟨l, _, rfl⟩ := hd
  rfl

theorem spawn_commandsLeft (l : Launch) : (w.spawn l).1.commandsLeft = w.commandsLeft := by
  unfold spawn
  dsimp only
  split
  · rfl
  · rw [schedule_commandsLeft]
    · rfl
    · intro d hd
      rcases List.mem_append.1 hd with h | h
      · split at h
        · rw [List.mem_singleton.1 h]; rfl
        · cases h
      · split at h
        · rw [List.mem_singleton.1 h]; rfl
        · cases h

theorem attachReaders_commandsLeft (i : Nat) (markers : List String) :
    (w.attachReaders i markers).commandsLeft = w.commandsLeft := by
  unfold attachReaders
  split
  · rfl
  · rw [schedule_commandsLeft]
    · rfl
    · intro d hd
      rcases List.mem_append.1 hd with h | h <;> exact isCommand_linesDue _ _ _ _ d h

theorem signal_commandsLeft (i : Nat) (s : TerminationSignal) :
    (w.signal i s).1.commandsLeft = w.commandsLeft := by
  unfold signal
  dsimp only
  split
  · rfl
  · rfl
  · rw [schedule_commandsLeft]
    · rfl
    · intro d hd
      rw [List.mem_singleton.1 hd]; rfl

theorem startCheck_frame : w.startCheck.1.agenda = w.agenda ∧ w.startCheck.1.now = w.now ∧
    w.startCheck.1.queue = w.queue := by
  unfold startCheck
  dsimp only
  split <;> exact ⟨rfl, rfl, rfl⟩

theorem openWindow_frame (url : String) : (w.openWindow url).1.agenda = w.agenda ∧
    (w.openWindow url).1.now = w.now ∧ (w.openWindow url).1.queue = w.queue := by
  unfold openWindow
  dsimp only
  split <;> exact ⟨rfl, rfl, rfl⟩

theorem showDialog_frame (d : Dialog) : (w.showDialog d).1.agenda = w.agenda ∧
    (w.showDialog d).1.now = w.now ∧ (w.showDialog d).1.queue = w.queue := by
  unfold showDialog
  dsimp only
  split <;> exact ⟨rfl, rfl, rfl⟩

end DesktopHost.World
