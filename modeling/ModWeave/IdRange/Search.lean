import ModWeave.IdRange

/-!
# Searching a range of magnitudes

`firstFrom` tries a number of magnitudes one after the other.  `Bounds.firstInCycle` goes from a start to the
upper bound and then on from the lower bound, so that it comes round to every magnitude of the range: what it
finds lies in the range and passes the test (`Bounds.of_firstInCycle_eq_some`), and it fails exactly if nothing in the
range passes (`Bounds.firstInCycle_eq_none_iff`).
-/

namespace ModWeave

/-- The first of `count` numbers from `start` on that passes a test. -/
def firstFrom (test : Int → Bool) (start : Int) : Nat → Option Int
  | 0 => none
  | count + 1 => if test start then some start else firstFrom test (start + 1) count

/-- The search finds a number exactly if it passes the test and none before it does. -/
theorem firstFrom_eq_some_iff {test : Int → Bool} {start n : Int} {count : Nat} :
    firstFrom test start count = some n ↔
      start ≤ n ∧ n < start + count ∧ test n = true ∧ ∀ m, start ≤ m → m < n → test m = false := by
  induction count generalizing start with
  | zero => simp only [firstFrom, reduceCtorEq, false_iff]; omega
  | succ count ih =>
    unfold firstFrom
    split
    · rename_i h
      constructor
      · rintro ⟨⟩
        exact ⟨by omega, by omega, h, fun m _ _ => by omega⟩
      · rintro ⟨_, _, _, none_before⟩
        by_cases hn : start = n
        · rw [hn]
        · simp [none_before start (by omega) (by omega)] at h
    · rename_i h
      rw [ih]
      constructor
      · rintro ⟨_, _, hn, none_before⟩
        refine ⟨by omega, by omega, hn, fun m hm hmn => ?_⟩
        by_cases hs : m = start
        · simpa [hs] using h
        · exact none_before m (by omega) hmn
      · rintro ⟨_, _, hn, none_before⟩
        have : start ≠ n := fun e => h (e ▸ hn)
        exact ⟨by omega, by omega, hn, fun m hm hmn => none_before m (by omega) hmn⟩

/-- The search fails exactly if none of the numbers passes the test. -/
theorem firstFrom_eq_none_iff {test : Int → Bool} {start : Int} {count : Nat} :
    firstFrom test start count = none ↔ ∀ m, start ≤ m → m < start + count → test m = false := by
  induction count generalizing start with
  | zero => simp only [firstFrom, true_iff]; omega
  | succ count ih =>
    unfold firstFrom
    split
    · rename_i h
      simp only [reduceCtorEq, false_iff]
      exact fun all => by simp [all start (by omega) (by omega)] at h
    · rename_i h
      rw [ih]
      constructor
      · intro all m hm hmn
        by_cases hs : m = start
        · simpa [hs] using h
        · exact all m (by omega) (by omega)
      · exact fun all m hm hmn => all m (by omega) (by omega)

namespace Bounds

/-- The first magnitude that passes a test, from `start` to the upper bound and then from the lower bound on. -/
def firstInCycle (b : Bounds) (test : Int → Bool) (start : Int) : Option Int :=
  firstFrom test start (b.high + 1 - start).toNat <|>
    firstFrom test b.low (min start (b.high + 1) - b.low).toNat

/-- What the search finds from a start in the range or above it lies in the range and passes the test. -/
theorem of_firstInCycle_eq_some {b : Bounds} {test : Int → Bool} {start m : Int} (h : b.low ≤ start)
    (found : b.firstInCycle test start = some m) : b.low ≤ m ∧ m ≤ b.high ∧ test m = true := by
  rw [firstInCycle, Option.orElse_eq_orElse, Option.orElse_eq_or, Option.or_eq_some_iff] at found
  rcases found with found | ⟨_, found⟩ <;> obtain ⟨_, _, hm, _⟩ := firstFrom_eq_some_iff.1 found
  · exact ⟨by omega, by omega, hm⟩
  · exact ⟨by omega, by omega, hm⟩

/-- The search from a start in the range or above it fails exactly if nothing in the range passes the test. -/
theorem firstInCycle_eq_none_iff {b : Bounds} {test : Int → Bool} {start : Int} (h : b.low ≤ start) :
    b.firstInCycle test start = none ↔ ∀ m, b.low ≤ m → m ≤ b.high → test m = false := by
  rw [firstInCycle, Option.orElse_eq_orElse, Option.orElse_eq_or, Option.or_eq_none_iff, firstFrom_eq_none_iff,
    firstFrom_eq_none_iff]
  constructor
  · rintro ⟨above, below⟩ m _ _
    by_cases hm : start ≤ m
    · exact above m hm (by omega)
    · exact below m (by omega) (by omega)
  · exact fun all => ⟨fun m _ _ => all m (by omega) (by omega), fun m _ _ => all m (by omega) (by omega)⟩

end Bounds

end ModWeave
