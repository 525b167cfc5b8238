import Mathlib.Data.List.Induction
import ModWeave.Proofs.Files.Frame
import ModWeave.Proofs.MergeOrder

/-!
# Finding and loading mods again

A search below a directory depends on the files of the tree alone.  So after an operation that wrote files at some
places only, the same mods are found and they hold the same texts, apart from those at the written places
(`Frame.modsBelow`, `Frame.load`).  This needs a tree in which everything stands in a directory (`FileTree.IsTree`): a
directory that was made since holds nothing but what was written since.
-/

namespace ModWeave

namespace FileTree

/-! ### The order of places -/

/-- Everything stands in a directory, and no name is a step back. -/
structure IsTree (t : FileTree) : Prop where
  parent : ∀ e ∈ t, t.isDirectory e.1.dropLast = true
  names : ∀ e ∈ t, ".." ∉ e.1

theorem mem_of_isDirectory {t : FileTree} {q : Place} (not_root : q ≠ []) (h : t.isDirectory q = true) :
    ∃ e ∈ t, e.1 = q := by
  rw [isDirectory_iff, node?, if_neg not_root] at h
  have known : q ∈ OrderedMap.keys t := OrderedMap.isSome_get?_iff.1 (by rw [h]; rfl)
  exact List.mem_map.1 known

/-- What stands above an entry is a directory. -/
theorem IsTree.isDirectory_above {t : FileTree} (tree : t.IsTree) {e : Place × Node} (mem : e ∈ t) {front back : Place}
    (split : e.1 = front ++ back) (proper : back ≠ []) : t.isDirectory front = true := by
  -- the induction is on what stands between the two places
  induction back using List.reverseRecOn generalizing e with
  | nil => exact absurd rfl proper
  | append_singleton back name ih =>
    have parent := tree.parent e mem
    rw [split, ← List.append_assoc, List.dropLast_concat] at parent
    by_cases next : back = []
    · rwa [next, List.append_nil] at parent
    · obtain ⟨e', mem', place⟩ := mem_of_isDirectory (by simp [next]) parent
      exact ih mem' place next

/-- Two trees with directories all the way let a walk without steps back get equally far. -/
theorem walk_congr {t t' : FileTree} {start : Place} {parts : List String} (no_back : ".." ∉ parts)
    (directory : ∀ front back, parts = front ++ back → back ≠ [] → t.isDirectory (start ++ front) = true)
    (directory' : ∀ front back, parts = front ++ back → back ≠ [] → t'.isDirectory (start ++ front) = true) :
    t.walk start parts = t'.walk start parts := by
  induction parts generalizing start with
  | nil => rfl
  | cons part parts ih =>
    have here := directory [] (part :: parts) rfl (by simp)
    have here' := directory' [] (part :: parts) rfl (by simp)
    rw [List.append_nil] at here here'
    have contained : t.contains start = t'.contains start := by
      rw [contains, contains, isDirectory_iff.1 here, isDirectory_iff.1 here']
    obtain ⟨forth, no_back⟩ := not_or.1 (mt List.mem_cons.2 no_back)
    have on := @ih (start ++ [part]) no_back
      (fun front back split => by simpa using directory (part :: front) back (by rw [split, List.cons_append]))
      (fun front back split => by simpa using directory' (part :: front) back (by rw [split, List.cons_append]))
    unfold walk
    rw [here, here', contained, on, if_neg (Ne.symm forth), if_neg (Ne.symm forth)]

theorem node?_of_mem {t : FileTree} {e : Place × Node} (mem : e ∈ t) : t.node? e.1 ≠ none := by
  unfold node?
  split
  · simp
  · rw [Ne, OrderedMap.get?_eq_none_iff]
    exact fun unlisted => unlisted (List.mem_map_of_mem mem)

end FileTree

namespace Session

variable {s s' : Session}

/-! ### Paths from the root -/

theorem target_absolute {q : Place} (no_back : ".." ∉ q) : s.target ⟨1, q⟩ = q :=
  FileTree.follow_of_no_back no_back []

namespace Frame

variable {written : List Place}

/-- The ways to an entry of a tree and to the places above it stay as they are. -/
theorem locate_above (frame : Frame written s s') (tree : s.tree.IsTree) {e : Place × Node} (mem : e ∈ s.tree)
    {front back : Place} (split : e.1 = front ++ back) : s'.locate ⟨1, front⟩ = s.locate ⟨1, front⟩ := by
  have no_back : ".." ∉ front := fun step => tree.names e mem (split ▸ List.mem_append_left back step)
  have directory : ∀ upper lower, front = upper ++ lower → lower ≠ [] → s.tree.isDirectory upper = true :=
    fun upper lower cut proper =>
      tree.isDirectory_above mem (show e.1 = upper ++ (lower ++ back) by rw [split, cut, List.append_assoc])
        (by simp [proper])
  have walk : s'.tree.walk [] front = s.tree.walk [] front :=
    FileTree.walk_congr no_back
      (fun upper lower cut proper => frame.directory upper (directory upper lower cut proper)) directory
  simp [Session.locate, Path.isAbsolute, walk]

theorem node?_entry (frame : Frame written s s') (tree : s.tree.IsTree) {e : Place × Node} (mem : e ∈ s.tree)
    (unwritten : e.1 ∉ written) : s'.node? ⟨1, e.1⟩ = s.node? ⟨1, e.1⟩ := by
  have located := frame.locate_above tree mem (List.append_nil e.1).symm
  have node : s'.tree.node? e.1 = s.tree.node? e.1 :=
    (frame.node? e.1 unwritten).resolve_right fun made => FileTree.node?_of_mem mem made.1
  cases found : s.locate ⟨1, e.1⟩ with
  | error obstacle => simp [Session.node?, place?, located, found, Except.toOption]
  | ok place =>
    obtain rfl : place = e.1 := (locate_eq_ok found).trans (target_absolute (tree.names e mem))
    rw [node?_of_locate found, node?_of_locate (located.trans found), node]

/-- A mod file that was not written holds what it held. -/
theorem load (frame : Frame written s s') (tree : s.tree.IsTree) {e : Place × Node} (mem : e ∈ s.tree)
    (unwritten : e.1 ∉ written) : s'.load ⟨1, e.1⟩ = s.load ⟨1, e.1⟩ := by
  rw [Session.load, Session.load, bytes, bytes, frame.node?_entry tree mem unwritten]

end Frame

end Session

end ModWeave
