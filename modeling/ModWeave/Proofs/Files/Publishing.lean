import ModWeave.Proofs.Files.Frame

/-!
# What a merge does to a file tree

A merge into a file changes nothing unless it succeeds.  One that succeeds leaves exactly its lines in the output file
and, if that file was there and a directory for copies is given, what the file held in its copy; every other file stays
(`Published`, `mergeInto_all_or_nothing`).

The copy stands under the name of the output file with `.bak` behind it, but for one case: where a directory has that
name already, the copy goes into it (`keptPath`).  And the file counts as being there if the path of the output leads to
it before the merge: a path that steps back through a directory which the merge itself makes leads to a file only
afterwards, which is then replaced without a copy (`not_published_to_backupPath`).
-/

namespace ModWeave.Session

/-- Where a copy of a file goes: to a path, or into the directory there under the name of the file. -/
def copyPath (s : Session) (source target : Path) : Path :=
  if s.node? target = some .directory then target.child source.name else target

/-- The path that is meant for the copy of a file. -/
def backupPath (source directory : Path) : Path := directory.child (source.name ++ ".bak")

/-- Where the copy of a file is kept. -/
def keptPath (s : Session) (source directory : Path) : Path := s.copyPath source (backupPath source directory)

variable {s s' : Session} {p : Path}

/-! ### One operation -/

theorem node?_of_look {n : Option Node} (h : s.look p = .ok n) : s.node? p = n := by
  unfold look at h
  split at h
  · cases h
  · exact Except.ok.inj h

theorem write_eq_ok {n : Node} (h : s.write p n = (s', .ok ())) :
    s.locate p = .ok (s.target p) ∧ s.tree.isDirectory (s.target p) = false ∧
      s' = { s with tree := s.tree.put (s.target p) n } := by
  unfold write at h
  split at h
  · cases h
  · rename_i q located
    obtain rfl := locate_eq_ok located
    split at h
    · cases h
    · rename_i not_directory
      cases h
      exact ⟨located, by simpa using not_directory, rfl⟩

theorem frame_of_write {n : Node} (h : s.write p n = (s', .ok ())) : Frame [s.target p] s s' := by
  have frame := Frame.write s p n
  rwa [h] at frame

/-- What is written to a path is found there. -/
theorem node?_of_write {n : Node} (h : s.write p n = (s', .ok ())) : s'.node? p = some n := by
  have frame := frame_of_write h
  obtain ⟨located, not_directory, rfl⟩ := write_eq_ok h
  rw [node?_of_locate (frame.locate located)]
  exact (FileTree.node?_put (FileTree.ne_root_of_not_isDirectory not_directory) n _).trans (if_pos rfl)

theorem frame_of_makeDirectory {written : List Place} {r : Except FileFault Unit} (h : s.makeDirectory p = (s', r)) :
    Frame written s s' := by
  have frame : Frame written s (s.makeDirectory p).1 := Frame.makeDirectory s p
  rwa [h] at frame

theorem store_eq_ok {n : Node} (h : s.store p n = (s', .ok ())) :
    ∃ s₁, s.makeDirectory p.parent = (s₁, .ok ()) ∧ s₁.write p n = (s', .ok ()) := by
  unfold store at h
  split at h
  · cases h
  · rename_i s₁ made
    exact ⟨s₁, made, h⟩

theorem copy_eq_ok {source target : Path} {n : Node} (h : s.copy source n target = (s', .ok ())) :
    n ≠ .directory ∧ s.place? (s.copyPath source target) ≠ s.place? source ∧
      s.write (s.copyPath source target) n = (s', .ok ()) := by
  have copy_eq : s.copy source n target =
      if s.place? (s.copyPath source target) = s.place? source then
        (s, .error (.sameFile source.toString (s.copyPath source target).toString))
      else if n = .directory then (s, .error (.blocked .isADirectory source.toString))
      else s.write (s.copyPath source target) n := rfl
  rw [copy_eq] at h
  split at h
  · cases h
  · rename_i elsewhere
    split at h
    · cases h
    · rename_i file
      exact ⟨file, elsewhere, h⟩

/-- Later on a copy would go where it has gone. -/
theorem copyPath_of_copy {source target : Path} {n : Node} (h : s.copy source n target = (s', .ok ())) :
    s'.copyPath source target = s.copyPath source target := by
  obtain ⟨file, -, written⟩ := copy_eq_ok h
  by_cases into : s.node? target = some .directory
  · rw [copyPath, copyPath, if_pos into, if_pos ((frame_of_write written).directory_path into)]
  · rw [copyPath, if_neg into] at written
    have other : s'.node? target ≠ some .directory := by
      rw [node?_of_write written]
      exact fun same => file (Option.some.inj same)
    rw [copyPath, copyPath, if_neg into, if_neg other]

/-! ### The copy of a file -/

/-- A copy of a file was kept. -/
structure Kept (s s' : Session) (source directory : Path) (n : Node) : Prop where
  there : s.node? source = some n
  file : n ≠ .directory
  copy : s'.node? (s'.keptPath source directory) = some n
  elsewhere : s'.target (s'.keptPath source directory) ≠ s'.target source
  frame : Frame [s'.target (s'.keptPath source directory)] s s'

namespace Kept

variable {source directory : Path} {n : Node}

theorem say (h : Kept s s' source directory n) (entries : List Log.Entry) :
    Kept s (s'.say entries) source directory n :=
  ⟨h.there, h.file, h.copy, h.elsewhere, h.frame.trans (Frame.say s' entries)⟩

/-- A copy that is not written over stays where it is kept. -/
theorem keptPath_eq {s₁ : Session} {written : List Place} (h : Kept s s₁ source directory n)
    (frame : Frame written s₁ s') (spared : s₁.target (s₁.keptPath source directory) ∉ written) :
    s'.keptPath source directory = s₁.keptPath source directory := by
  by_cases into : s₁.node? (backupPath source directory) = some .directory
  · rw [keptPath, keptPath, copyPath, copyPath, if_pos into, if_pos (frame.directory_path into)]
  · have kept_eq : s₁.keptPath source directory = backupPath source directory := if_neg into
    have copy := frame.node?_path h.copy spared
    rw [kept_eq] at copy
    have other : s'.node? (backupPath source directory) ≠ some .directory := by
      rw [copy]
      exact fun same => h.file (Option.some.inj same)
    exact (if_neg other).trans kept_eq.symm

end Kept

theorem kept_of_backUp {source directory kept : Path} (h : s.backUp source directory = (s', .ok kept)) :
    ∃ n, Kept s s' source directory n := by
  unfold backUp at h
  split at h
  · cases h
  · cases h
  · rename_i n looked
    split at h
    · cases h
    · rename_i s₁ made
      dsimp only at h
      split at h
      · cases h
      · rename_i s₂ copied
        cases h
        change s₁.copy source n (backupPath source directory) = (s₂, .ok ()) at copied
        obtain ⟨file, elsewhere, written⟩ := copy_eq_ok copied
        have there := node?_of_look looked
        have kept_eq : s₂.keptPath source directory = s₁.copyPath source (backupPath source directory) :=
          copyPath_of_copy copied
        have below : Frame [] s s₁ := frame_of_makeDirectory made
        have frame := frame_of_write written
        refine ⟨n, Kept.say ⟨there, file, ?_, ?_, ?_⟩ _⟩
        · rw [kept_eq]
          exact node?_of_write written
        · -- both paths lead somewhere, and not to the same place
          rw [kept_eq, frame.target_eq, frame.target_eq]
          intro same
          obtain ⟨located, -, -⟩ := write_eq_ok written
          obtain ⟨source_located, -⟩ := node?_eq_some_iff.1 (below.node?_path there (by simp))
          exact elsewhere ((place?_eq_some_iff.2 located).trans (same ▸ (place?_eq_some_iff.2 source_located).symm))
        · rw [kept_eq, frame.target_eq]
          exact (below.mono (by simp)).trans frame

/-! ### A merge into a file -/

/-- The places of the files that are written when lines are put into the output file: its own, and the place of its
copy if there is one. -/
def publishedPlaces (s s' : Session) (output : Path) (backup : Option Path) : List Place :=
  s'.target output ::
    if (s.node? output).isSome then (backup.map fun directory => s'.target (s'.keptPath output directory)).toList
    else []

/-- Lines were put into the output file, after a copy of what was there. -/
structure Published (s s' : Session) (output : Path) (backup : Option Path) (lines : List Line) : Prop where
  /-- The output file holds the text of the lines, each with a line feed behind it. -/
  lines_there : s'.node? output = some (.file (Text.Utf8.encode (Text.joinLines lines)))
  /-- What the output file held is in its copy. -/
  copy : ∀ directory ∈ backup, ∀ n, s.node? output = some n → s'.node? (s'.keptPath output directory) = some n
  /-- No other file was changed. -/
  frame : Frame (publishedPlaces s s' output backup) s s'

theorem Published.say {output : Path} {backup : Option Path} {lines : List Line}
    (h : Published s s' output backup lines) (entries : List Log.Entry) :
    Published s (s'.say entries) output backup lines :=
  ⟨h.lines_there, h.copy, h.frame.trans (Frame.say s' entries)⟩

/-- Writing the output file leaves a copy that was kept elsewhere. -/
private theorem published_of_writeLines {s₁ : Session} {output : Path} {backup : Option Path} {lines : List Line}
    (kept : ((s.node? output = none ∨ backup = none) ∧ s₁ = s) ∨
      ∃ directory n, backup = some directory ∧ Kept s s₁ output directory n)
    (h : s₁.writeLines output lines = (s', .ok ())) : Published s s' output backup lines := by
  obtain ⟨s₂, made, written⟩ := store_eq_ok h
  have below : Frame [] s₁ s₂ := frame_of_makeDirectory made
  have frame := frame_of_write written
  have last : Frame [s'.target output] s₁ s' := by
    rw [frame.target_eq]
    exact (below.mono (by simp)).trans frame
  rcases kept with ⟨nothing, rfl⟩ | ⟨directory, n, rfl, kept⟩
  · refine ⟨node?_of_write written, fun directory given n there => ?_, last.mono (by simp [publishedPlaces])⟩
    rcases nothing with missing | unasked
    · rw [missing] at there
      cases there
    · rw [unasked] at given
      cases given
  · -- the copy stays, and with it the path to it
    have elsewhere : s₁.target (s₁.keptPath output directory) ∉ [s'.target output] := by
      rw [List.mem_singleton, last.target_eq]
      exact kept.elsewhere
    have kept_eq := kept.keptPath_eq last elsewhere
    refine ⟨node?_of_write written, fun directory' given n' there => ?_, ?_⟩
    · obtain rfl : directory = directory' := Option.mem_some.1 given
      obtain rfl : n = n' := Option.some.inj (kept.there.symm.trans there)
      rw [kept_eq]
      exact last.node?_path kept.copy elsewhere
    · refine (kept.frame.mono ?_).trans (last.mono ?_)
      · simp [publishedPlaces, kept.there, kept_eq, last.target_eq]
      · simp [publishedPlaces]

theorem published_of_publish {output : Path} {backup : Option Path} {lines : List Line}
    (h : s.publish output backup lines = (s', .ok ())) : Published s s' output backup lines := by
  unfold publish at h
  split at h
  · cases h
  · rename_i s₁ backed
    split at h
    · cases h
    · rename_i s₂ written
      cases h
      refine (published_of_writeLines ?_ written).say _
      unfold backUpIfThere at backed
      split at backed
      · cases backed
        exact Or.inl ⟨Or.inr rfl, rfl⟩
      · rename_i directory
        split at backed
        · cases backed
        · rename_i looked
          cases backed
          exact Or.inl ⟨Or.inl (node?_of_look looked), rfl⟩
        · cases made : s.backUp output directory with
          | mk s₃ kept =>
            rw [made] at backed
            cases kept with
            | error e => cases backed
            | ok kept =>
              cases backed
              obtain ⟨n, kept⟩ := kept_of_backUp made
              exact Or.inr ⟨directory, n, rfl, kept⟩

/-- A merge that does not succeed changes nothing. -/
theorem tree_mergeInto_of_not_succeeded {plan : MergePlan} {mods : List ModFile} (output : Path) (backup : Option Path)
    (failed : ∀ m log, merge? plan mods = some (m, log) → m.succeeded = false) :
    (s.mergeInto plan mods output backup).1.tree = s.tree := by
  unfold mergeInto merge
  cases merged : merge? plan mods with
  | none => rfl
  | some result =>
    obtain ⟨m, log⟩ := result
    simp [failed m log merged, say]

/-- One that succeeds puts its lines into the file, unless a file operation fails. -/
theorem mergeInto_of_succeeded {plan : MergePlan} {mods : List ModFile} {output : Path} {backup : Option Path}
    {m : Merge} {log : List Log.Entry} (merged : merge? plan mods = some (m, log)) (succeeded : m.succeeded = true) :
    (∃ e, (s.mergeInto plan mods output backup).2 = .error (.file e)) ∨
    (s.mergeInto plan mods output backup).2 = .ok m ∧
      Published s (s.mergeInto plan mods output backup).1 output backup m.lines := by
  unfold mergeInto merge
  simp only [merged, succeeded, if_true]
  cases published : (s.say log).publish output backup m.lines with
  | mk s' written =>
    cases written with
    | error e => exact Or.inl ⟨e, rfl⟩
    | ok _ =>
      refine Or.inr ⟨rfl, ?_⟩
      obtain ⟨lines_there, copy, frame⟩ := published_of_publish published
      exact ⟨lines_there, copy, (Frame.say s log).trans frame⟩

/-- If no file operation fails, a merge into a file changes nothing unless it succeeds; and if it succeeds, the output
file holds its lines, the copy what the output file held, and every other file what it held before. -/
theorem mergeInto_all_or_nothing (s : Session) (plan : MergePlan) (mods : List ModFile) (output : Path)
    (backup : Option Path) (unblocked : ∀ e, (s.mergeInto plan mods output backup).2 ≠ .error (.file e)) :
    (∀ m log, merge? plan mods = some (m, log) → m.succeeded = true →
      (s.mergeInto plan mods output backup).2 = .ok m ∧
      Published s (s.mergeInto plan mods output backup).1 output backup m.lines) ∧
    ((∀ m log, merge? plan mods = some (m, log) → m.succeeded = false) →
      (s.mergeInto plan mods output backup).1.tree = s.tree) := by
  refine ⟨fun m log merged succeeded => ?_, tree_mergeInto_of_not_succeeded output backup⟩
  rcases mergeInto_of_succeeded merged succeeded with ⟨e, blocked⟩ | done
  · exact absurd blocked (unblocked e)
  · exact done

/-! ### Merges at the root of a tree -/

/-- A file with an old text. -/
def oldFile : Node := .file (Text.Utf8.encode "old".toList)

/-- A session in which an output file with the old text and some directories are there. -/
def besideOld (directories : List Place) : Session :=
  ⟨⟨1, []⟩, (["merged.dm"], oldFile) :: directories.map fun q => (q, .directory), []⟩

/-- A merge of one mod into a file, with copies in a directory `backup`. -/
def mergeOver (s : Session) (output : String) : Session × Except Fault Merge :=
  s.mergeInto (.plain {} none) [.named "a" "#newmonster 3500\n#end\n".toList] (Path.ofString output)
    (some (Path.ofString "backup"))

/-- Whether a merge into a file succeeded. -/
def wentWell (r : Session × Except Fault Merge) : Bool := r.2.toOption.any Merge.succeeded

theorem not_blocked_of_wentWell {r : Session × Except Fault Merge} (h : wentWell r = true) :
    ∀ e, r.2 ≠ .error (.file e) := by
  intro e blocked
  rw [wentWell, blocked] at h
  cases h

theorem mergeInto_all_or_nothing_besideOld :
    (∀ e, ((besideOld []).mergeOver "merged.dm").2 ≠ .error (.file e)) ∧
    (∃ m, ((besideOld []).mergeOver "merged.dm").2 = .ok m ∧ m.succeeded = true ∧
      Published (besideOld []) ((besideOld []).mergeOver "merged.dm").1 (Path.ofString "merged.dm")
        (some (Path.ofString "backup")) m.lines) ∧
    ((besideOld []).mergeOver "merged.dm").1.node? (Path.ofString "backup/merged.dm.bak") = some oldFile := by
  have went : wentWell ((besideOld []).mergeOver "merged.dm") = true := by decide +kernel
  have unblocked := not_blocked_of_wentWell went
  have merged : (merge? (.plain {} none) [.named "a" "#newmonster 3500\n#end\n".toList]).any
      (fun r => r.1.succeeded) = true := by decide +kernel
  obtain ⟨⟨m, log⟩, merged, succeeded⟩ := (Option.any_eq_true _ _).1 merged
  obtain ⟨ok, published⟩ := (mergeInto_all_or_nothing (besideOld []) (.plain {} none)
    [.named "a" "#newmonster 3500\n#end\n".toList] (Path.ofString "merged.dm") (some (Path.ofString "backup"))
    unblocked).1 m log merged succeeded
  exact ⟨unblocked, ⟨m, ok, succeeded, published⟩, by decide +kernel⟩

/-- The copy need not stand at the path that is meant for it: a directory of that name takes it in.  And there need not
be one: a path that steps back through a missing directory leads to the old file only when that directory has been
made. -/
theorem not_published_to_backupPath :
    (let s := besideOld [["backup"], ["backup", "merged.dm.bak"]]
     let r := s.mergeOver "merged.dm"
     wentWell r = true ∧ s.node? (Path.ofString "merged.dm") = some oldFile ∧
       r.1.node? (backupPath (Path.ofString "merged.dm") (Path.ofString "backup")) ≠ some oldFile ∧
       r.1.node? (Path.ofString "backup/merged.dm.bak/merged.dm") = some oldFile) ∧
    (let r := (besideOld []).mergeOver "out/../merged.dm"
     wentWell r = true ∧ ∀ e ∈ r.1.tree, e.2 ≠ oldFile) := by
  decide +kernel

end ModWeave.Session
