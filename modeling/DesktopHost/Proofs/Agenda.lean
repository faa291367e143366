import DesktopHost.Proofs.Foresight

/-!
A sorted agenda, in whatever order its entries were put there: it stays sorted, and to leave some
entries out changes nothing for the others.
-/

set_option autoImplicit false

namespace DesktopHost.Due

def Sorted (agenda : List Due) : Prop := agenda.Pairwise fun d e => d.time ≤ e.time

instance (agenda : List Due) : Decidable (Sorted agenda) :=
  inferInstanceAs (Decidable (agenda.Pairwise fun d e => d.time ≤ e.time))

variable {d : Due} {agenda ds : List Due} {t : Nat}

theorem insert_perm (d : Due) (agenda : List Due) : (insert d agenda).Perm (d :: agenda) := by
  induction agenda with
  | nil => exact .refl _
  | cons e rest ih =>
    unfold insert
    split
    · exact .refl _
    · exact (ih.cons e).trans (.swap d e rest)

theorem Sorted.insert (h : Sorted agenda) (d : Due) : Sorted (insert d agenda) := by
  induction agenda with
  | nil => exact List.pairwise_singleton _ _
  | cons e rest ih =>
    obtain ⟨he, hrest⟩ := List.pairwise_cons.1 h
    unfold Due.insert
    split
    · next hlt =>
      refine List.pairwise_cons.2 ⟨fun x hx => ?_, h⟩
      rcases List.mem_cons.1 hx with rfl | hx
      · exact Nat.le_of_lt hlt
      · exact Nat.le_trans (Nat.le_of_lt hlt) (he x hx)
    · next hle =>
      refine List.pairwise_cons.2 ⟨fun x hx => ?_, ih hrest⟩
      rcases List.mem_cons.1 ((insert_perm d rest).mem_iff.1 hx) with rfl | hx
      · exact Nat.le_of_not_lt hle
      · exact he x hx

theorem Sorted.insertAll (h : Sorted agenda) (ds : List Due) : Sorted (insertAll ds agenda) := by
  induction ds generalizing agenda with
  | nil => exact h
  | cons d rest ih => exact ih (h.insert d)

theorem Sorted.beyond (h : Sorted agenda) (t : Nat) : Sorted (beyond t agenda) :=
  h.sublist (List.dropWhile_sublist _)

theorem Sorted.lt_of_lt_head {e : Due} {rest : List Due} (h : Sorted (e :: rest))
    (ht : t < e.time) : ∀ x ∈ e :: rest, t < x.time := by
  intro x hx
  rcases List.mem_cons.1 hx with rfl | hx
  · exact ht
  · exact Nat.lt_of_lt_of_le ht ((List.pairwise_cons.1 h).1 x hx)

theorem Sorted.lt_of_mem_beyond (h : Sorted agenda) (hd : d ∈ Due.beyond t agenda) : t < d.time := by
  cases hb : Due.beyond t agenda with
  | nil => rw [hb] at hd; cases hd
  | cons e rest =>
    have hsorted := h.beyond t
    rw [hb] at hsorted hd
    exact hsorted.lt_of_lt_head (lt_head_of_beyond hb) d hd

theorem Sorted.mem_upTo (h : Sorted agenda) (hd : d ∈ agenda) (ht : d.time ≤ t) :
    d ∈ Due.upTo t agenda := by
  rw [← List.takeWhile_append_dropWhile (p := fun d : Due => decide (d.time ≤ t)) (l := agenda)]
    at hd
  exact (List.mem_append.1 hd).resolve_right fun hd => Nat.not_lt.2 ht (h.lt_of_mem_beyond hd)

theorem mem_beyond (hd : d ∈ agenda) (ht : t < d.time) : d ∈ Due.beyond t agenda := by
  rw [← List.takeWhile_append_dropWhile (p := fun d : Due => decide (d.time ≤ t)) (l := agenda)]
    at hd
  exact (List.mem_append.1 hd).resolve_left fun hd => Nat.not_le.2 ht (time_of_mem_upTo hd)

theorem insertAll_perm (ds agenda : List Due) : (insertAll ds agenda).Perm (ds ++ agenda) := by
  induction ds generalizing agenda with
  | nil => exact .refl _
  | cons d rest ih =>
    exact (ih (insert d agenda)).trans
      (((insert_perm d agenda).append_left rest).trans List.perm_middle)

theorem insert_of_lt (h : ∀ e ∈ agenda, d.time < e.time) : insert d agenda = d :: agenda := by
  cases agenda with
  | nil => rfl
  | cons e rest => exact if_pos (h e List.mem_cons_self)

theorem insert_cons_of_le {e : Due} (h : ¬d.time < e.time) (rest : List Due) :
    insert d (e :: rest) = e :: insert d rest := if_neg h

theorem upTo_of_lt (h : ∀ e ∈ agenda, t < e.time) : upTo t agenda = [] := by
  cases agenda with
  | nil => rfl
  | cons e rest =>
    have := h e List.mem_cons_self
    simp [upTo, this]

theorem beyond_of_lt (h : ∀ e ∈ agenda, t < e.time) : beyond t agenda = agenda := by
  cases agenda with
  | nil => rfl
  | cons e rest =>
    have := h e List.mem_cons_self
    simp [beyond, this]

/-- Who is no longer concerned by some entries finds the others in the order in which they come. -/
theorem Sorted.filter_insert (h : Sorted agenda) (q : Due → Bool) (d : Due) :
    (Due.insert d agenda).filter q =
      if q d then Due.insert d (agenda.filter q) else agenda.filter q := by
  induction agenda with
  | nil => cases hq : q d <;> simp [Due.insert, hq]
  | cons e rest ih =>
    by_cases hlt : d.time < e.time
    · have hall := h.lt_of_lt_head hlt
      rw [insert_of_lt hall, insert_of_lt fun x hx => hall x (List.mem_of_mem_filter hx),
        List.filter_cons]
    · rw [insert_cons_of_le hlt, List.filter_cons, ih (List.pairwise_cons.1 h).2, List.filter_cons]
      cases q d <;> cases q e <;> simp [insert_cons_of_le hlt]

theorem Sorted.filter_insertAll (h : Sorted agenda) (q : Due → Bool) (ds : List Due) :
    (Due.insertAll ds agenda).filter q = Due.insertAll (ds.filter q) (agenda.filter q) := by
  induction ds generalizing agenda with
  | nil => rfl
  | cons d rest ih =>
    rw [show Due.insertAll (d :: rest) agenda = Due.insertAll rest (Due.insert d agenda) from rfl,
      ih (h.insert d), h.filter_insert, List.filter_cons]
    cases q d <;> rfl

theorem Sorted.filter_upTo (h : Sorted agenda) (q : Due → Bool) (t : Nat) :
    upTo t (agenda.filter q) = (upTo t agenda).filter q ∧
      Due.beyond t (agenda.filter q) = (Due.beyond t agenda).filter q := by
  induction agenda with
  | nil => exact ⟨rfl, rfl⟩
  | cons e rest ih =>
    obtain ⟨hup, hbeyond⟩ := ih (List.pairwise_cons.1 h).2
    by_cases ht : e.time ≤ t
    · rw [List.filter_cons]
      simp only [upTo, Due.beyond, List.takeWhile_cons, List.dropWhile_cons, ht, decide_true,
        if_true, List.filter_cons] at hup hbeyond ⊢
      cases q e <;> simp [ht, hup, hbeyond]
    · have hall := h.lt_of_lt_head (Nat.lt_of_not_le ht)
      have hfilter : ∀ x ∈ (e :: rest).filter q, t < x.time :=
        fun x hx => hall x (List.mem_of_mem_filter hx)
      rw [upTo_of_lt hall, upTo_of_lt hfilter, beyond_of_lt hall, beyond_of_lt hfilter]
      exact ⟨rfl, rfl⟩

end DesktopHost.Due
