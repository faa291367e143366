import DesktopHost.Backend.Launch

/-!
Which file is run for a path at which the existence check has found one. The check looks from the
launcher's own directory; the child has entered the directory of the program before it is looked
for, and a bare name is searched for elsewhere.
-/

set_option autoImplicit false

namespace DesktopHost

namespace Path

theorem split_slash (p : Path) : split (slash :: p) = [] :: split p := by
  rw [split, if_pos rfl]

theorem slash_not_mem_of_mem_split {p : Path} {part : Bytes} (h : part ∈ split p) :
    slash ∉ part := by
  induction p generalizing part with
  | nil =>
    rw [split, List.mem_singleton] at h
    rw [h]
    exact List.not_mem_nil
  | cons b r ih =>
    unfold split at h
    split at h
    · rcases List.mem_cons.1 h with rfl | h
      · exact List.not_mem_nil
      · exact ih h
    · next hb =>
      split at h
      · next hs => exact absurd hs (split_ne_nil r)
      · next first rest hs =>
        rw [hs] at ih
        rcases List.mem_cons.1 h with rfl | h
        · rw [List.mem_cons, not_or]
          exact ⟨fun he => hb he.symm, ih List.mem_cons_self⟩
        · exact ih (List.mem_cons_of_mem _ h)

theorem split_of_slash_not_mem {part : Bytes} (h : slash ∉ part) : split part = [part] := by
  induction part with
  | nil => rfl
  | cons b r ih =>
    rw [List.mem_cons, not_or] at h
    rw [split, if_neg fun he => h.1 he.symm, ih h.2]

theorem split_append_slash {part : Bytes} (h : slash ∉ part) (p : Path) :
    split (part ++ slash :: p) = part :: split p := by
  induction part with
  | nil => exact split_slash p
  | cons b r ih =>
    rw [List.mem_cons, not_or] at h
    rw [List.cons_append, split, if_neg fun he => h.1 he.symm, ih h.2]

/-- Parts without slashes are found again in the path that they make. -/
theorem split_unsplit {parts : List Bytes} (hne : parts ≠ [])
    (h : ∀ part ∈ parts, slash ∉ part) : split (unsplit parts) = parts := by
  induction parts with
  | nil => exact absurd rfl hne
  | cons x rest ih =>
    have hx := h x List.mem_cons_self
    cases rest with
    | nil =>
      rw [show unsplit [x] = x by simp [unsplit, List.intercalate]]
      exact split_of_slash_not_mem hx
    | cons y more =>
      rw [unsplit_cons_cons, split_append_slash hx,
        ih (List.cons_ne_nil _ _) fun part hp => h part (List.mem_cons_of_mem _ hp)]

theorem dropTrailingSelf_split (parts : List Bytes) : ∃ selves,
    parts = dropTrailingSelf parts ++ selves ∧ ∀ part ∈ selves, isSelf part = true := by
  refine ⟨(parts.reverse.takeWhile isSelf).reverse, ?_, fun part hp => ?_⟩
  · rw [dropTrailingSelf, ← List.reverse_append, List.takeWhile_append_dropWhile,
      List.reverse_reverse]
  · exact List.all_eq_true.1 List.all_takeWhile part (List.mem_reverse.1 hp)

theorem dropTrailingSelf_append {parts : List Bytes} {last : Bytes} (h : isSelf last = false) :
    dropTrailingSelf (parts ++ [last]) = parts ++ [last] := by
  rw [dropTrailingSelf, List.reverse_append, List.reverse_singleton, List.singleton_append,
    List.dropWhile_cons_of_neg (by rw [h]; exact Bool.false_ne_true), List.reverse_cons,
    List.reverse_reverse]

end Path

namespace FileTree

open DesktopHost.Path

variable (t : FileTree)

theorem walk_append (names : List Bytes) (front back : List Bytes) :
    t.walk names (front ++ back) = (t.walk names front).bind fun found => t.walk found back := by
  induction front generalizing names with
  | nil => rfl
  | cons part rest ih =>
    simp only [List.cons_append, walk]
    split
    · rfl
    · rfl
    · split
      · exact ih names
      · split
        · exact ih names.dropLast
        · split
          · rfl
          · exact ih _

theorem walk_selves {names : List Bytes} {parts : List Bytes} (hdir : t.node? names = some .dir)
    (h : ∀ part ∈ parts, isSelf part = true) : t.walk names parts = .ok names := by
  induction parts with
  | nil => rfl
  | cons part rest ih =>
    simp only [walk, hdir, if_pos (h part List.mem_cons_self)]
    exact ih fun x hx => h x (List.mem_cons_of_mem _ hx)

/-- Who walks on from somewhere is in a directory. -/
theorem dir_of_walk_cons {names found : List Bytes} {part : Bytes} {rest : List Bytes}
    (h : t.walk names (part :: rest) = .ok found) : t.node? names = some .dir := by
  unfold walk at h
  split at h
  · cases h
  · cases h
  · next hdir => exact hdir

theorem locate_eq_ok {cwd names : List Bytes} {p : Path} {n : FileNode}
    (h : t.locate cwd p = .ok (names, n)) : p ≠ [] ∧ p.length ≤ maxPath ∧
      t.walk (start cwd p) (split p) = .ok names ∧ t.node? names = some n := by
  unfold locate at h
  split at h
  · cases h
  · next hne =>
    split at h
    · cases h
    · next hlen =>
      cases hw : t.walk (start cwd p) (split p) with
      | error f =>
        rw [hw] at h
        cases h
      | ok found =>
        rw [hw] at h
        simp only [bind, Except.bind] at h
        split at h
        · next n' hn =>
          cases h
          exact ⟨fun he => hne (by rw [he]; rfl), Nat.le_of_not_lt hlen, rfl, hn⟩
        · cases h

theorem locate_of_walk {cwd names : List Bytes} {p : Path} {n : FileNode} (hne : p ≠ [])
    (hlen : p.length ≤ maxPath) (hw : t.walk (start cwd p) (split p) = .ok names)
    (hn : t.node? names = some n) : t.locate cwd p = .ok (names, n) := by
  unfold locate
  rw [if_neg (by simpa using hne), if_neg (Nat.not_lt.2 hlen), hw]
  simp only [bind, Except.bind, hn]

/-- The last part of a path that leads to a file is its name. -/
theorem file_parts {names found : List Bytes} {parts : List Bytes} {last : Bytes} {r : Bool}
    (h : t.walk names (parts ++ [last]) = .ok found) (hf : t.node? found = some (.file r)) :
    isSelf last = false ∧ ∃ dir, t.walk names parts = .ok dir ∧ t.node? dir = some .dir := by
  rw [walk_append] at h
  cases hd : t.walk names parts with
  | error f =>
    rw [hd] at h
    cases h
  | ok dir =>
    rw [hd] at h
    change t.walk dir [last] = .ok found at h
    have hdir := t.dir_of_walk_cons h
    refine ⟨Bool.eq_false_iff.2 fun hs => ?_, dir, rfl, hdir⟩
    -- a part that names nothing would lead to the directory itself
    rw [t.walk_selves hdir (by simpa using hs)] at h
    cases h
    rw [hdir] at hf
    cases hf

theorem walk_dropTrailingSelf {names dir : List Bytes} {parts : List Bytes}
    (h : t.walk names parts = .ok dir) : t.walk names (dropTrailingSelf parts) = .ok dir := by
  obtain ⟨selves, hparts, hselves⟩ := dropTrailingSelf_split parts
  rw [hparts, walk_append] at h
  cases hw : t.walk names (dropTrailingSelf parts) with
  | error f =>
    rw [hw] at h
    cases h
  | ok found =>
    rw [hw] at h
    change t.walk found selves = .ok dir at h
    cases selves with
    | nil => exact h
    | cons part rest =>
      rw [t.walk_selves (t.dir_of_walk_cons h) hselves] at h
      exact h

end FileTree

namespace Launch

open DesktopHost.Path

variable {t : FileTree} {cwd names : List Bytes} {search : List Path} {p : Path}
  {env : List (String × String)} {r : Bool}

theorem locate_of_checked (h : (forExecutable p env).checkedFile t cwd = .ok names)
    (hf : t.node? names = some (.file r)) : t.locate cwd p = .ok (names, .file r) := by
  unfold checkedFile at h
  change (t.locate cwd p).map (·.1) = .ok names at h
  cases hl : t.locate cwd p with
  | error f =>
    rw [hl] at h
    cases h
  | ok found =>
    obtain ⟨names', n⟩ := found
    rw [hl] at h
    cases h
    rw [(t.locate_eq_ok hl).2.2.2] at hf
    cases hf
    rfl

theorem runnable_of_locate (h : t.locate cwd p = .ok (names, .file r)) :
    t.runnable cwd p = if r then .ok names else .error .permissionDenied := by
  unfold FileTree.runnable
  rw [h]
  cases r <;> rfl

/-- The directory of an absolute path that leads to a file can be entered. -/
theorem directory_of_absolute (ha : p.isAbsolute = true)
    (h : t.locate cwd p = .ok (names, .file r)) :
    ∃ dir, t.directory cwd (workingDirOf p) = .ok dir := by
  obtain ⟨-, hlen, hw, hfile⟩ := t.locate_eq_ok h
  obtain ⟨q, rfl⟩ : ∃ q, p = slash :: q := by
    cases p with
    | nil => cases ha
    | cons b q =>
      have hb : b = slash := by simpa [isAbsolute] using ha
      exact ⟨q, by rw [hb]⟩
  have hstart : FileTree.start cwd (slash :: q) = [] := if_pos ha
  obtain ⟨parts, last, hsplit⟩ : ∃ parts last, split q = parts ++ [last] :=
    ⟨_, _, (List.dropLast_concat_getLast (split_ne_nil q)).symm⟩
  rw [hstart, split_slash, hsplit, ← List.cons_append] at hw
  obtain ⟨hlast, dir, hdir, hnode⟩ := t.file_parts hw hfile
  have hparent : parent? (slash :: q) = some (slash :: unsplit (dropTrailingSelf parts)) := by
    have hanchor : anchor (slash :: q) = 1 := by cases q <;> rfl
    unfold parent?
    rw [hanchor]
    simp only [List.take_succ_cons, List.take_zero, List.drop_succ_cons, List.drop_zero, hsplit,
      dropTrailingSelf_append hlast, List.dropLast_concat]
    simp
  have hwork : workingDirOf (slash :: q) = slash :: unsplit (dropTrailingSelf parts) := by
    rw [workingDirOf, hparent]
  have hshort := parent?_length hparent
  have hslash : ∀ part ∈ dropTrailingSelf parts, slash ∉ part := by
    intro part hp
    obtain ⟨selves, hparts, -⟩ := dropTrailingSelf_split parts
    refine slash_not_mem_of_mem_split (p := q) ?_
    rw [hsplit, hparts]
    exact List.mem_append_left _ (List.mem_append_left _ hp)
  have hwalk : t.walk [] (split (slash :: unsplit (dropTrailingSelf parts))) = .ok dir := by
    have hparts : t.walk [] ([] :: dropTrailingSelf parts) = .ok dir :=
      t.walk_dropTrailingSelf (show t.walk [] ([] :: parts) = .ok dir from hdir)
    rw [split_slash]
    by_cases hnil : dropTrailingSelf parts = []
    · rw [hnil] at hparts ⊢
      exact hparts
    · rw [split_unsplit hnil hslash]
      exact hparts
  rw [hwork]
  refine ⟨dir, ?_⟩
  unfold FileTree.directory
  rw [t.locate_of_walk (List.cons_ne_nil _ _) (Nat.le_of_lt (Nat.lt_of_lt_of_le hshort hlen))
    (by rw [FileTree.start, if_pos (show isAbsolute (slash :: _) = true from rfl)]; exact hwalk)
    hnode]
  rfl

theorem runnable_of_absolute (ha : p.isAbsolute = true) (cwd cwd' : List Bytes) :
    t.runnable cwd' p = t.runnable cwd p := by
  unfold FileTree.runnable FileTree.locate FileTree.start
  rw [ha]
  rfl

theorem isAbsolute_join {dir name : Path} (hd : dir.isAbsolute = true) :
    (join dir name).isAbsolute = true := by
  unfold join
  split
  · next hn => exact hn
  · cases dir with
    | nil => cases hd
    | cons b rest => split <;> exact hd

/-- A search through absolute directories finds the same from everywhere. -/
theorem searchFile_of_absolute (hs : ∀ dir ∈ search, dir.isAbsolute = true) (denied : Bool)
    (cwd' : List Bytes) :
    searchFile t cwd' p denied search = searchFile t cwd p denied search := by
  induction search generalizing denied with
  | nil => rfl
  | cons dir rest ih =>
    have hrest := ih fun d hd => hs d (List.mem_cons_of_mem _ hd)
    rw [searchFile, searchFile,
      runnable_of_absolute (isAbsolute_join (hs dir List.mem_cons_self)) cwd cwd']
    split
    · rfl
    · exact hrest _

theorem workingDirOf_bare (hne : p ≠ []) (hp : slash ∉ p) : workingDirOf p = [dot] := by
  by_cases hdot : p = [dot]
  · rw [hdot]
    rfl
  · have hanchor : p.anchor = 0 := by
      cases p with
      | nil => rfl
      | cons b rest =>
        rw [List.mem_cons, not_or] at hp
        have hb : (b == slash) = false := beq_false_of_ne fun he => hp.1 he.symm
        cases rest with
        | nil =>
          have hd : b ≠ dot := fun he => hdot (by rw [he])
          simp [anchor, hd, Ne.symm hp.1]
        | cons c more =>
          rw [List.mem_cons, not_or] at hp
          simp [anchor, Ne.symm hp.1, Ne.symm hp.2.1]
    have hself : isSelf p = false := by simp [isSelf, hne, hdot]
    have hparts : dropTrailingSelf ([] ++ [p]) = [] ++ [p] := dropTrailingSelf_append hself
    have hparent : p.parent? = some [] := by
      unfold parent?
      rw [hanchor, List.drop_zero, split_of_slash_not_mem hp, ← List.nil_append [p], hparts]
      rfl
    rw [workingDirOf, hparent]

/-- A bare name is searched for from the launcher's directory. -/
theorem executedFile_bare (h : (forExecutable p env).checkedFile t cwd = .ok names)
    (hp : p.contains slash = false) :
    (forExecutable p env).executedFile t cwd search = searchFile t cwd p false search := by
  have hmem : slash ∉ p := by simpa using hp
  obtain ⟨n, hl⟩ : ∃ n, t.locate cwd p = .ok (names, n) := by
    change (t.locate cwd p).map (·.1) = .ok names at h
    cases hl : t.locate cwd p with
    | error f =>
      rw [hl] at h
      cases h
    | ok found =>
      rw [hl] at h
      cases h
      exact ⟨found.2, rfl⟩
  obtain ⟨hne, -, hw, -⟩ := t.locate_eq_ok hl
  have hrelative : p.isAbsolute = false := by
    cases p with
    | nil => rfl
    | cons b rest =>
      rw [List.mem_cons, not_or] at hmem
      simp [isAbsolute, Ne.symm hmem.1]
  rw [FileTree.start, if_neg (by rw [hrelative]; exact Bool.false_ne_true),
    split_of_slash_not_mem hmem] at hw
  have hnode := t.dir_of_walk_cons hw
  have hself : t.walk (FileTree.start cwd [dot]) (split [dot]) = .ok cwd :=
    show t.walk cwd [[dot]] = .ok cwd from t.walk_selves hnode (by decide)
  have hdir : t.directory cwd [dot] = .ok cwd := by
    unfold FileTree.directory
    rw [t.locate_of_walk (List.cons_ne_nil _ _) (by decide) hself hnode]
    rfl
  unfold executedFile
  change (t.directory cwd (workingDirOf p) >>= fun dir =>
    if p.contains slash then t.runnable dir p else searchFile t dir p false search) = _
  rw [workingDirOf_bare hne hmem, hdir, hp]
  rfl

/-- Where the check finds a file, that file is what is run, or it cannot be run at all, if the path
is absolute, or if it names the launcher's own directory and a file in it. A bare name is run as
the search finds it, which has nothing to do with where the launcher is. -/
theorem runs_checked_file (h : (forExecutable p env).checkedFile t cwd = .ok names)
    (hf : t.node? names = some (.file r)) :
    (p.isAbsolute = true ∨
        p.contains slash = true ∧ t.directory cwd (workingDirOf p) = .ok cwd →
      (forExecutable p env).executedFile t cwd search =
        if r then .ok names else .error .permissionDenied) ∧
    (p.contains slash = false → (∀ dir ∈ search, dir.isAbsolute = true) → ∀ cwd' names',
      (forExecutable p env).checkedFile t cwd' = .ok names' →
        (forExecutable p env).executedFile t cwd' search =
          (forExecutable p env).executedFile t cwd search) := by
  have hl := locate_of_checked h hf
  refine ⟨fun hway => ?_, fun hbare hs cwd' names' h' => ?_⟩
  · have hrun := runnable_of_locate hl
    unfold executedFile
    change (t.directory cwd (workingDirOf p) >>= fun dir =>
      if p.contains slash then t.runnable dir p else searchFile t dir p false search) = _
    rcases hway with ha | ⟨hslash, hdir⟩
    · obtain ⟨dir, hdir⟩ := directory_of_absolute ha hl
      have hslash : p.contains slash = true := by
        cases p with
        | nil => cases ha
        | cons b rest =>
          have hb : b = slash := by simpa [isAbsolute] using ha
          simp [hb]
      rw [hdir, hslash, ← hrun, ← runnable_of_absolute ha cwd dir]
      rfl
    · rw [hdir, hslash, ← hrun]
      rfl
  · rw [executedFile_bare h hbare, executedFile_bare h' hbare, searchFile_of_absolute hs]

/-- In the directory `w` of this tree there are `w/a/b`, `w/a/a/b` and `w/b`; outside is `u/b`. -/
def twins : FileTree :=
  .ofList [[119], [119, 47, 97], [119, 47, 97, 47, 97], [117]]
    [([119, 47, 97, 47, 98], true), ([119, 47, 97, 47, 97, 47, 98], true), ([119, 47, 98], true),
      ([117, 47, 98], true)]

/-- Seen from `w`, the file `a/b` is found and `a/a/b` is run; and `b` is found, but what is run is
the `b` of the search directory `u`, or nothing if there is no such directory. -/
theorem checked_file_not_run :
    (forExecutable [97, 47, 98] []).checkedFile twins [[119]] = .ok [[119], [97], [98]] ∧
    (forExecutable [97, 47, 98] []).executedFile twins [[119]] [] =
      .ok [[119], [97], [97], [98]] ∧
    (forExecutable [98] []).checkedFile twins [[119]] = .ok [[119], [98]] ∧
    (forExecutable [98] []).executedFile twins [[119]] [[47, 117]] = .ok [[117], [98]] ∧
    (forExecutable [98] []).executedFile twins [[119]] [] = .error .noSuchFile :=
  ⟨rfl, rfl, rfl, rfl, rfl⟩

/-- Named in full, or with a leading dot, the same files are run. -/
theorem runs_named_file :
    (forExecutable [47, 119, 47, 98] []).executedFile twins [[119]] [[47, 117]] =
      .ok [[119], [98]] ∧
    (forExecutable [46, 47, 98] []).executedFile twins [[119]] [[47, 117]] =
      .ok [[119], [98]] ∧
    (forExecutable [98] []).executedFile twins [[117]] [[47, 117]] =
      (forExecutable [98] []).executedFile twins [[119]] [[47, 117]] := by
  have hfile : twins.node? [[119], [98]] = some (.file true) := rfl
  have hchecked : (forExecutable [47, 119, 47, 98] []).checkedFile twins [[119]] =
      .ok [[119], [98]] := rfl
  have hdotted : (forExecutable [46, 47, 98] []).checkedFile twins [[119]] =
      .ok [[119], [98]] := rfl
  have hfound : (forExecutable [98] []).checkedFile twins [[119]] = .ok [[119], [98]] := rfl
  exact ⟨(runs_checked_file hchecked hfile).1 (.inl rfl),
    (runs_checked_file hdotted hfile).1 (.inr ⟨rfl, rfl⟩),
    (runs_checked_file hfound hfile).2 rfl (by decide) [[117]] [[117], [98]] rfl⟩

end Launch
end DesktopHost
