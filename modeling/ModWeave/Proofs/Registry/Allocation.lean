import Mathlib.Data.Int.Range
import ModWeave.Proofs.Definition.Run
import ModWeave.Proofs.Registry.Runs

/-!
# The order in which numbers are tried

An id that has to move gets the first free number behind its own: the search goes up to the upper bound of the range,
starts again at the lower bound, and ends where it began.  `Bounds.cycleAfter` lists the magnitudes in this order, each
of the range once, and `nextFree_eq_find?` says that the search goes through this list.  So what `allocate` gives, and
when it fails, can be read off the list (`allocate_first_free`), whatever has happened to the registry before.
-/

namespace ModWeave

private theorem firstFrom_eq_find? (test : Int → Bool) (low high : Int) :
    firstFrom test low (high - low).toNat = (Int.range low high).find? test := by
  unfold Int.range
  generalize (high - low).toNat = count
  induction count generalizing low with
  | zero => rfl
  | succ count ih =>
    have tail : (List.range count).map (fun k : Nat => low + ((k + 1 : Nat) : Int)) =
        (List.range count).map fun k : Nat => low + 1 + (k : Int) := by
      apply List.map_congr_left
      intro k _
      omega
    have cut : (List.range (count + 1)).map (fun k : Nat => low + (k : Int)) =
        low :: (List.range count).map fun k : Nat => low + 1 + (k : Int) := by
      rw [List.range_succ_eq_map, List.map_cons, List.map_map, ← tail]
      simp
    rw [cut, List.find?_cons, firstFrom]
    by_cases first : test low = true
    · simp [first]
    · simp [first, ih (low + 1)]

namespace Bounds

/-- The magnitudes of a range in the order in which they follow `n`: from the next one to the upper bound, and then from
the lower bound as far as `n`. -/
def cycleAfter (b : Bounds) (n : Int) : List Int :=
  Int.range (max (n + 1) b.low) (b.high + 1) ++ Int.range b.low (min n b.high + 1)

variable {b : Bounds} {m n : Int}

theorem mem_cycleAfter : m ∈ b.cycleAfter n ↔ b.low ≤ m ∧ m ≤ b.high := by
  rw [cycleAfter, List.mem_append, Int.mem_range_iff, Int.mem_range_iff]
  omega

theorem firstInCycle_eq_find? (test : Int → Bool) :
    b.firstInCycle test (max (n + 1) b.low) = (b.cycleAfter n).find? test := by
  have lower : (min (max (n + 1) b.low) (b.high + 1) - b.low).toNat = (min n b.high + 1 - b.low).toNat := by omega
  rw [firstInCycle, lower, firstFrom_eq_find?, firstFrom_eq_find?, cycleAfter, List.find?_append,
    Option.orElse_eq_orElse, Option.orElse_eq_or]

end Bounds

namespace Registry

/-- An id that can be given away: it belongs to nobody, no mod of the run declares it, and its number is no sentinel. -/
structure Free (r : Registry) (id : EntityId) : Prop where
  unowned : r.owner? id = none
  undeclared : id ∉ r.reserved
  not_sentinel : r.ranges.isSentinel id = false

variable {r : Registry} {range : IdRange} {b : Bounds} {mod : String} {id : EntityId} {n : Int}

theorem isFree_iff (range_eq : r.ranges id.kind = some range) :
    r.isFree range (id.renumber n) = true ↔ r.Free (id.renumber n) := by
  have sentinel_eq : r.ranges.isSentinel (id.renumber n) = range.isSentinel n := by
    simp [RangeMap.isSentinel, EntityId.renumber, range_eq]
  have owner_iff : r.owners.contains (id.renumber n) = false ↔ r.owner? (id.renumber n) = none := by
    simp [owner?, ← Std.TreeMap.contains_iff_mem]
  have reserved_iff : r.reserved.contains (id.renumber n) = false ↔ id.renumber n ∉ r.reserved := by
    simp [← Std.TreeSet.contains_iff_mem]
  have free_iff : r.Free (id.renumber n) ↔ (r.owner? (id.renumber n) = none ∧ id.renumber n ∉ r.reserved) ∧
      r.ranges.isSentinel (id.renumber n) = false := by
    constructor
    · intro h
      exact ⟨⟨h.unowned, h.undeclared⟩, h.not_sentinel⟩
    · rintro ⟨⟨unowned, undeclared⟩, not_sentinel⟩
      exact ⟨unowned, undeclared, not_sentinel⟩
  rw [free_iff, ← owner_iff, ← reserved_iff, sentinel_eq, isFree, Bool.not_eq_true', Bool.or_eq_false_iff,
    Bool.or_eq_false_iff]
  exact Iff.rfl

theorem nextFree_eq_find? : r.nextFree range b id =
    ((b.cycleAfter id.number.natAbs).find? fun m => r.isFree range (id.renumber (signOf id.number * m))).map
      (signOf id.number * ·) := by
  rw [nextFree, Bounds.firstInCycle_eq_find?]

theorem nextFree_eq_none_iff (range_eq : r.ranges id.kind = some range) : r.nextFree range b id = none ↔
    ∀ m, b.low ≤ m → m ≤ b.high → ¬ r.Free (id.renumber (signOf id.number * m)) := by
  rw [nextFree_eq_find?, Option.map_eq_none_iff, List.find?_eq_none]
  simp only [Bounds.mem_cycleAfter, isFree_iff range_eq, and_imp]

end Registry

end ModWeave
