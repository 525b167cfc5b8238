import ModWeave.Entity
import Std.Data.TreeMap
import Std.Data.TreeSet

/-!
# The order of ids

Ids are ordered by the place of their kind and then by their number, so that sets and maps of ids can be kept as
search trees.  The order is linear: `compare` tells any two different ids apart.
-/

namespace ModWeave

/-- The place of a kind in the list of all kinds. -/
def EntityKind.rank (k : EntityKind) : Nat := all.idxOf k

theorem EntityKind.rank_injective {j k : EntityKind} (h : j.rank = k.rank) : j = k := by
  revert h
  cases j <;> cases k <;> decide

namespace EntityId

instance : Ord EntityId := ⟨compareLex (compareOn fun id => id.kind.rank) (compareOn EntityId.number)⟩

instance : Std.TransOrd EntityId :=
  inferInstanceAs (Std.TransCmp (compareLex (compareOn fun id : EntityId => id.kind.rank)
    (compareOn EntityId.number)))

instance : Std.LawfulEqOrd EntityId where
  eq_of_compare {a b} h := by
    have h : compareLex (compareOn fun id : EntityId => id.kind.rank) (compareOn EntityId.number) a b = .eq := h
    obtain ⟨hk, hn⟩ := compareLex_eq_eq.1 h
    have hk : a.kind = b.kind := EntityKind.rank_injective (Std.LawfulEqOrd.eq_of_compare hk)
    have hn : a.number = b.number := Std.LawfulEqOrd.eq_of_compare hn
    cases a; cases b; simp_all

end EntityId

end ModWeave
