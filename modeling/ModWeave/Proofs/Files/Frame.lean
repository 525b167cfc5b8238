import ModWeave.Files.Publishing

/-!
# What file operations leave alone

A path names one place, whatever the tree looks like (`Session.target`): the tree only decides whether the path leads
there (`locate_eq_ok`).  `Frame written s s'` says what an operation between two sessions may have done: it keeps every
directory, changes files at the places in `written` only, and adds directories where nothing was.  It holds of each
operation on files, whether that succeeds or not (`Frame.makeDirectory`, `Frame.write`), and of operations one after the
other (`Frame.trans`).  So a path that leads to a place goes on to lead there (`Frame.locate`).
-/

namespace ModWeave

namespace FileTree

theorem isDirectory_iff {t : FileTree} {q : Place} : t.isDirectory q = true ↔ t.node? q = some .directory := by
  simp [isDirectory]

theorem node?_put {t : FileTree} {q : Place} (not_root : q ≠ []) (n : Node) (r : Place) :
    (t.put q n).node? r = if q = r then some n else t.node? r := by
  unfold node? put
  rw [OrderedMap.get?_insert]
  by_cases root : r = []
  · subst root
    simp [not_root]
  · simp [root]

theorem ne_root_of_not_isDirectory {t : FileTree} {q : Place} (h : t.isDirectory q = false) : q ≠ [] := by
  rintro rfl
  cases h

theorem ne_root_of_not_contains {t : FileTree} {q : Place} (h : t.contains q = false) : q ≠ [] := by
  rintro rfl
  cases h

theorem contains_eq_false_iff {t : FileTree} {q : Place} : t.contains q = false ↔ t.node? q = none := by
  simp [contains]

/-- Something put at a place does not show among things of which neither it nor what was there is one. -/
theorem filter_put {P : Place × Node → Bool} {t : FileTree} {q : Place} {n : Node} (new : P (q, n) = false)
    (old : ∀ e ∈ t, e.1 = q → P e = false) : (t.put q n).filter P = t.filter P := by
  unfold put
  induction t with
  | nil => simp [OrderedMap.insert, new]
  | cons e t ih =>
    have rest := ih fun e he => old e (List.mem_cons_of_mem _ he)
    unfold OrderedMap.insert
    by_cases here : e.1 = q
    · rw [if_pos here, List.filter_cons, List.filter_cons, new, old e (List.mem_cons_self ..) here]
      rfl
    · rw [if_neg here, List.filter_cons, List.filter_cons, rest]

/-- Where some parts lead from a place, if a step back leads to the place above. -/
def follow (start : Place) (parts : List String) : Place :=
  parts.foldl (fun done p => if p = ".." then done.dropLast else done ++ [p]) start

/-- Without steps back the parts are put behind the place. -/
theorem follow_of_no_back {parts : List String} (no_back : ".." ∉ parts) (start : Place) :
    follow start parts = start ++ parts := by
  induction parts generalizing start with
  | nil => simp [follow]
  | cons part parts ih =>
    obtain ⟨ne, no_back⟩ := not_or.1 (mt List.mem_cons.2 no_back)
    have step : follow start (part :: parts) = follow (start ++ [part]) parts := by
      rw [follow, List.foldl_cons, if_neg (Ne.symm ne), follow]
    rw [step, ih no_back, List.append_assoc, List.singleton_append]

/-- The place that a walk leads to does not hang on the tree. -/
theorem walk_eq_ok {t : FileTree} {start place : Place} {parts : List String} (h : t.walk start parts = .ok place) :
    place = follow start parts := by
  induction parts generalizing start with
  | nil =>
    cases h
    rfl
  | cons part parts ih =>
    unfold walk at h
    repeat' split at h
    any_goals cases h
    · rename_i back
      rw [ih h, follow, follow, List.foldl_cons, if_pos back]
    · rename_i forth
      rw [ih h, follow, follow, List.foldl_cons, if_neg forth]

/-- A walk gets as far in a tree that has all the directories. -/
theorem walk_of_directories {t t' : FileTree} (kept : ∀ q, t.isDirectory q = true → t'.isDirectory q = true)
    {start place : Place} {parts : List String} (h : t.walk start parts = .ok place) :
    t'.walk start parts = .ok place := by
  induction parts generalizing start with
  | nil => exact h
  | cons part parts ih =>
    unfold walk at h
    repeat' split at h
    any_goals cases h
    all_goals
      rename_i not_missing directory short step
      have there : t'.isDirectory start = true := kept start (by simpa using directory)
      have contained : t'.contains start = true := by
        rw [contains, isDirectory_iff.1 there]
        rfl
      unfold walk
      simp only [there, contained, short, step, if_true, if_false]
      exact ih h

end FileTree

namespace Session

/-- The place that a path names. -/
def target (s : Session) (p : Path) : Place := FileTree.follow (if p.isAbsolute then [] else s.current.parts) p.parts

theorem locate_eq_ok {s : Session} {p : Path} {place : Place} (h : s.locate p = .ok place) : place = s.target p := by
  unfold locate at h
  split at h
  · cases h
  · split at h
    · cases h
    · exact FileTree.walk_eq_ok h

theorem place?_eq_some_iff {s : Session} {p : Path} {place : Place} :
    s.place? p = some place ↔ s.locate p = .ok place := by
  unfold place?
  cases s.locate p <;> simp [Except.toOption]

theorem node?_of_locate {s : Session} {p : Path} {place : Place} (h : s.locate p = .ok place) :
    s.node? p = s.tree.node? place := by
  simp [node?, place?_eq_some_iff.2 h]

theorem node?_eq_some_iff {s : Session} {p : Path} {n : Node} :
    s.node? p = some n ↔ s.locate p = .ok (s.target p) ∧ s.tree.node? (s.target p) = some n := by
  constructor
  · intro h
    obtain ⟨place, found, node⟩ := Option.bind_eq_some_iff.1 h
    have located := place?_eq_some_iff.1 found
    rw [← locate_eq_ok located]
    exact ⟨located, node⟩
  · rintro ⟨located, node⟩
    rw [node?_of_locate located, node]

/-- What may have happened between two sessions, if files were written at the given places only. -/
structure Frame (written : List Place) (s s' : Session) : Prop where
  current_eq : s'.current = s.current
  directory : ∀ q, s.tree.isDirectory q = true → s'.tree.isDirectory q = true
  node? : ∀ q, q ∉ written → s'.tree.node? q = s.tree.node? q ∨
    s.tree.node? q = none ∧ s'.tree.node? q = some .directory
  /-- The files in the order in which the tree lists them. -/
  files : (s'.tree.filter fun e => e.2 ≠ .directory && e.1 ∉ written) =
    s.tree.filter fun e => e.2 ≠ .directory && e.1 ∉ written

namespace Frame

variable {written written' : List Place} {s s' s'' : Session}

theorem refl (s : Session) : Frame written s s := ⟨rfl, fun _ h => h, fun _ _ => Or.inl rfl, rfl⟩

theorem of_tree_eq (current : s'.current = s.current) (tree : s'.tree = s.tree) : Frame written s s' :=
  ⟨current, fun _ h => tree ▸ h, fun _ _ => Or.inl (by rw [tree]), by rw [tree]⟩

theorem trans (h : Frame written s s') (h' : Frame written s' s'') : Frame written s s'' where
  current_eq := h'.current_eq.trans h.current_eq
  directory q hq := h'.directory q (h.directory q hq)
  node? q hq := by
    rcases h.node? q hq with same | ⟨none, made⟩
    · rw [← same]
      exact h'.node? q hq
    · rcases h'.node? q hq with same | ⟨still_none, -⟩
      · exact Or.inr ⟨none, same.trans made⟩
      · rw [made] at still_none
        cases still_none
  files := h'.files.trans h.files

theorem mono (h : Frame written s s') (sub : ∀ q ∈ written, q ∈ written') : Frame written' s s' where
  current_eq := h.current_eq
  directory := h.directory
  node? q hq := h.node? q fun mem => hq (sub q mem)
  files := by
    have finer : ∀ t : FileTree, (t.filter fun e => e.2 ≠ .directory && e.1 ∉ written') =
        (t.filter fun e => e.2 ≠ .directory && e.1 ∉ written).filter fun e => e.1 ∉ written' := fun t => by
      rw [List.filter_filter]
      refine List.filter_congr fun e _ => ?_
      by_cases outside : e.1 ∈ written'
      · simp [outside]
      · have not_written : e.1 ∉ written := fun mem => outside (sub e.1 mem)
        simp [outside, not_written]
    rw [finer, finer, h.files]

/-- A file is put at a place where no directory is. -/
theorem put_file {q : Place} {n : Node} (not_directory : s.tree.isDirectory q = false) :
    Frame [q] s { s with tree := s.tree.put q n } where
  current_eq := rfl
  directory r hr := by
    have ne : q ≠ r := by
      rintro rfl
      rw [not_directory] at hr
      cases hr
    rw [FileTree.isDirectory_iff] at hr ⊢
    exact (FileTree.node?_put (FileTree.ne_root_of_not_isDirectory not_directory) n r).trans (by rw [if_neg ne, hr])
  node? r hr := by
    refine Or.inl ((FileTree.node?_put (FileTree.ne_root_of_not_isDirectory not_directory) n r).trans (if_neg ?_))
    rintro rfl
    exact hr (List.mem_singleton_self q)
  files := FileTree.filter_put (by simp) fun e _ same => by simp [same]

/-- A directory is put at a place where nothing is. -/
theorem put_directory {q : Place} (free : s.tree.contains q = false) :
    Frame written s { s with tree := s.tree.put q .directory } := by
  have nothing := FileTree.contains_eq_false_iff.1 free
  have put : ∀ r, (s.tree.put q .directory).node? r = if q = r then some .directory else s.tree.node? r :=
    FileTree.node?_put (FileTree.ne_root_of_not_contains free) .directory
  refine ⟨rfl, fun r hr => ?_, fun r _ => ?_, FileTree.filter_put (by simp) fun e he same => ?_⟩
  · rw [FileTree.isDirectory_iff] at hr ⊢
    refine (put r).trans ?_
    split
    · rfl
    · exact hr
  · by_cases here : q = r
    · exact Or.inr ⟨here ▸ nothing, (put r).trans (if_pos here)⟩
    · exact Or.inl ((put r).trans (if_neg here))
  · -- what the tree lists at the place would be there
    have unlisted : q ∉ OrderedMap.keys s.tree := by
      rw [← OrderedMap.get?_eq_none_iff]
      rwa [FileTree.node?, if_neg (FileTree.ne_root_of_not_contains free)] at nothing
    exact absurd (same ▸ List.mem_map_of_mem he) unlisted

theorem say (s : Session) (entries : List Log.Entry) : Frame written s (s.say entries) := of_tree_eq rfl rfl

theorem addDirectory {p : Path} (h : s.addDirectory p = .ok s') : Frame written s s' := by
  unfold Session.addDirectory at h
  cases located : s.locate p with
  | error e =>
    rw [located] at h
    cases h
  | ok q =>
    rw [located] at h
    cases occupied : s.tree.contains q with
    | true =>
      simp [occupied, bind, Except.bind, throw, throwThe, MonadExceptOf.throw] at h
    | false =>
      simp only [occupied, bind, Except.bind, pure, Except.pure, Bool.false_eq_true, if_false] at h
      cases h
      exact put_directory occupied

theorem ensureDirectory (s : Session) (p : Path) : Frame written s (s.ensureDirectory p).1 := by
  unfold Session.ensureDirectory
  split
  · rename_i added
    exact addDirectory added
  · split
    · exact refl s
    · exact refl s

/-- Making directories changes no file. -/
theorem makeDirectory (s : Session) (p : Path) : Frame written s (s.makeDirectory p).1 := by
  induction p using Session.makeDirectory.induct s with
  | case1 p missing s' e above ih =>
    rw [above] at ih
    rw [Session.makeDirectory, dif_pos missing, above]
    exact ih
  | case2 p missing s' above ih =>
    rw [above] at ih
    rw [Session.makeDirectory, dif_pos missing, above]
    exact ih.trans (ensureDirectory s' p)
  | case3 p there =>
    rw [Session.makeDirectory, dif_neg there]
    exact ensureDirectory s p

theorem write (s : Session) (p : Path) (n : Node) : Frame [s.target p] s (s.write p n).1 := by
  unfold Session.write
  split
  · exact refl s
  · rename_i q located
    obtain rfl := locate_eq_ok located
    split
    · exact refl s
    · rename_i not_directory
      exact put_file (by simpa using not_directory)

theorem target_eq (h : Frame written s s') (p : Path) : s'.target p = s.target p := by
  rw [target, h.current_eq, target]

/-- A path that leads to a place goes on to lead there. -/
theorem locate (h : Frame written s s') {p : Path} {q : Place} (found : s.locate p = .ok q) : s'.locate p = .ok q := by
  unfold Session.locate at found ⊢
  split
  · simp_all
  · split
    · simp_all
    · rename_i no_null short
      rw [if_neg no_null, if_neg short] at found
      rw [h.current_eq]
      exact FileTree.walk_of_directories h.directory found

/-- What a path leads to stays, if nothing is written there. -/
theorem node?_path (h : Frame written s s') {p : Path} {n : Node} (found : s.node? p = some n)
    (not_written : s.target p ∉ written) : s'.node? p = some n := by
  obtain ⟨located, node⟩ := node?_eq_some_iff.1 found
  rw [node?_of_locate (h.locate located)]
  rcases h.node? _ not_written with same | ⟨none, -⟩
  · rw [same, node]
  · rw [none] at node
    cases node

theorem directory_path (h : Frame written s s') {p : Path} (found : s.node? p = some .directory) :
    s'.node? p = some .directory := by
  obtain ⟨located, node⟩ := node?_eq_some_iff.1 found
  rw [node?_of_locate (h.locate located)]
  exact FileTree.isDirectory_iff.1 (h.directory _ (FileTree.isDirectory_iff.2 node))

end Frame

end Session

end ModWeave
