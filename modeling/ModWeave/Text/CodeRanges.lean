/-!
# Sets of characters given by ranges of code points

A Unicode property is kept as the list of its maximal ranges, both ends included.  `CodeRanges.has` looks a
character up; `has_iff` says that it finds exactly the characters of some range.
-/

namespace ModWeave.Text

/-- The code points of a set, as ranges with both ends included. -/
abbrev CodeRanges := List (Nat × Nat)

namespace CodeRanges

/-- Whether a character lies in one of the ranges. -/
def has (ranges : CodeRanges) (c : Char) : Bool :=
  ranges.any fun r => r.1 ≤ c.toNat && c.toNat ≤ r.2

theorem has_iff {ranges : CodeRanges} {c : Char} :
    ranges.has c = true ↔ ∃ r ∈ ranges, r.1 ≤ c.toNat ∧ c.toNat ≤ r.2 := by
  simp [has]

end CodeRanges

end ModWeave.Text
