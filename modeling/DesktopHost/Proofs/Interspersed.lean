import DesktopHost.Proofs.Agenda

/-!
A list with more entries put in between, and what becomes of two such agendas.
-/

set_option autoImplicit false

namespace DesktopHost

/-- `all` is `rest` with `extra` put in, both in their order. -/
inductive Interspersed {α : Type} : List α → List α → List α → Prop
  | nil : Interspersed [] [] []
  | extra (a : α) {extra rest all : List α} (h : Interspersed extra rest all) :
    Interspersed (a :: extra) rest (a :: all)
  | kept (a : α) {extra rest all : List α} (h : Interspersed extra rest all) :
    Interspersed extra (a :: rest) (a :: all)

namespace Interspersed

variable {α β : Type} {extra rest all extra' rest' all' : List α}

theorem refl (l : List α) : Interspersed [] l l := by
  induction l with
  | nil => exact .nil
  | cons a l ih => exact ih.kept a

theorem eq_of_nil (h : Interspersed [] rest all) : all = rest := by
  generalize he : ([] : List α) = e at h
  induction h with
  | nil => rfl
  | extra => cases he
  | kept a _ ih => rw [ih he]

theorem sublist (h : Interspersed extra rest all) : rest.Sublist all := by
  induction h with
  | nil => exact .refl _
  | extra a _ ih => exact ih.cons a
  | kept a _ ih => exact ih.cons_cons a

theorem extra_sublist (h : Interspersed extra rest all) : extra.Sublist all := by
  induction h with
  | nil => exact .refl _
  | extra a _ ih => exact ih.cons_cons a
  | kept a _ ih => exact ih.cons a

theorem subset (h : Interspersed extra rest all) : extra ⊆ all := h.extra_sublist.subset

theorem append (h : Interspersed extra rest all) (h' : Interspersed extra' rest' all') :
    Interspersed (extra ++ extra') (rest ++ rest') (all ++ all') := by
  induction h with
  | nil => exact h'
  | extra a _ ih => exact ih.extra a
  | kept a _ ih => exact ih.kept a

theorem reverse (h : Interspersed extra rest all) :
    Interspersed extra.reverse rest.reverse all.reverse := by
  induction h with
  | nil => exact .nil
  | extra a _ ih =>
    rw [List.reverse_cons, List.reverse_cons]
    simpa using ih.append (.extra a .nil)
  | kept a _ ih =>
    rw [List.reverse_cons, List.reverse_cons]
    simpa using ih.append (.kept a .nil)

/-- What is put on both agendas stands at the same place in them. -/
theorem insert {extra rest all : List Due} (h : Interspersed extra rest all)
    (sorted : Due.Sorted all) (d : Due) :
    Interspersed extra (Due.insert d rest) (Due.insert d all) := by
  induction h with
  | nil => exact .kept d .nil
  | @extra a extra rest all h ih =>
    obtain ⟨ha, hrest⟩ := List.pairwise_cons.1 sorted
    by_cases hlt : d.time < a.time
    · have hall : ∀ e ∈ rest, d.time < e.time := fun e he =>
        Nat.lt_of_lt_of_le hlt (ha e (h.sublist.subset he))
      rw [Due.insert_of_lt hall, Due.insert, if_pos hlt]
      exact (h.extra a).kept d
    · rw [Due.insert_cons_of_le hlt]
      exact (ih hrest).extra a
  | @kept a extra rest all h ih =>
    by_cases hlt : d.time < a.time
    · rw [Due.insert, if_pos hlt, Due.insert, if_pos hlt]
      exact (h.kept a).kept d
    · rw [Due.insert_cons_of_le hlt, Due.insert_cons_of_le hlt]
      exact (ih (List.pairwise_cons.1 sorted).2).kept a

theorem insertAll {extra rest all : List Due} (h : Interspersed extra rest all)
    (sorted : Due.Sorted all) (ds : List Due) :
    Interspersed extra (Due.insertAll ds rest) (Due.insertAll ds all) := by
  induction ds generalizing rest all with
  | nil => exact h
  | cons d ds ih => exact ih (h.insert sorted d) (sorted.insert d)

theorem split {extra rest all : List Due} (h : Interspersed extra rest all)
    (sorted : Due.Sorted all) (t : Nat) :
    Interspersed (Due.upTo t extra) (Due.upTo t rest) (Due.upTo t all) ∧
      Interspersed (Due.beyond t extra) (Due.beyond t rest) (Due.beyond t all) := by
  have late {a : Due} {all : List Due} (hs : Due.Sorted (a :: all)) (ha : ¬a.time ≤ t) :
      ∀ e ∈ a :: all, t < e.time := hs.lt_of_lt_head (Nat.lt_of_not_le ha)
  induction h with
  | nil => exact ⟨.nil, .nil⟩
  | @extra a extra rest all h ih =>
    by_cases ha : a.time ≤ t
    · obtain ⟨hup, hbeyond⟩ := ih (List.pairwise_cons.1 sorted).2
      simp only [Due.upTo, Due.beyond, List.takeWhile_cons, List.dropWhile_cons, ha, decide_true,
        if_true] at hup hbeyond ⊢
      exact ⟨hup.extra a, hbeyond⟩
    · have hall := late sorted ha
      have hextra := fun e he => hall e ((h.extra a).subset he)
      have hrest := fun e he => hall e ((h.extra a).sublist.subset he)
      rw [Due.upTo_of_lt hall, Due.upTo_of_lt hextra, Due.upTo_of_lt hrest, Due.beyond_of_lt hall,
        Due.beyond_of_lt hextra, Due.beyond_of_lt hrest]
      exact ⟨.nil, h.extra a⟩
  | @kept a extra rest all h ih =>
    by_cases ha : a.time ≤ t
    · obtain ⟨hup, hbeyond⟩ := ih (List.pairwise_cons.1 sorted).2
      simp only [Due.upTo, Due.beyond, List.takeWhile_cons, List.dropWhile_cons, ha, decide_true,
        if_true] at hup hbeyond ⊢
      exact ⟨hup.kept a, hbeyond⟩
    · have hall := late sorted ha
      have hextra := fun e he => hall e ((h.kept a).subset he)
      have hrest := fun e he => hall e ((h.kept a).sublist.subset he)
      rw [Due.upTo_of_lt hall, Due.upTo_of_lt hextra, Due.upTo_of_lt hrest, Due.beyond_of_lt hall,
        Due.beyond_of_lt hextra, Due.beyond_of_lt hrest]
      exact ⟨.nil, h.kept a⟩

end Interspersed

end DesktopHost
