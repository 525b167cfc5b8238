import ModWeave.Text.Digit

/-!
# Integer literals

A literal is an optional minus sign and a run of decimal digits of any script.  One with more than `maxDigits`
digits, leading zeros included, is refused; every shorter one has a value.  `write` gives the literal of a
number in ASCII digits without leading zeros, and `read_write` says that it reads back.  A number that would need
more digits than that is not `isWritable`, and no literal reads as one (`isWritable_of_read`).
-/

namespace ModWeave.Decimal

open Text

/-- The greatest number of digits that a literal may have. -/
def maxDigits : Nat := 4300

/-- A literal with too many digits. -/
structure TooLong where
  /-- How many digits it has. -/
  digits : Nat
deriving DecidableEq, Repr

/-- The wording of the refusal. -/
def TooLong.message (e : TooLong) : String :=
  s!"Exceeds the limit (4300 digits) for integer string conversion: value has {e.digits} digits; " ++
    "use sys.set_int_max_str_digits() to increase the limit"

/-- The value of a run of digits. -/
def readDigits (digits : List Char) : Except TooLong Nat :=
  if digits.length ≤ maxDigits then .ok (digitsValue digits) else .error ⟨digits.length⟩

/-- The value of a literal. -/
def read : List Char → Except TooLong Int
  | '-' :: digits => (readDigits digits).map fun n : Nat => -(n : Int)
  | digits => (readDigits digits).map Int.ofNat

/-- The literal of a number. -/
def write (n : Int) : List Char :=
  if n < 0 then '-' :: Nat.toDigits 10 n.natAbs else Nat.toDigits 10 n.natAbs

/-- Whether a number has few enough digits to be written. -/
def isWritable (n : Int) : Bool := n.natAbs < Nat.pow 10 maxDigits

theorem isWritable_of_natAbs_le {m n : Int} (le : m.natAbs ≤ n.natAbs) (h : isWritable n = true) :
    isWritable m = true := decide_eq_true (Nat.lt_of_le_of_lt le (of_decide_eq_true h))

/-- The first of some numbers that has too many digits to be written. -/
def unwritable? (numbers : List Int) : Option Int := numbers.find? fun n => !isWritable n

/-- The wording of the refusal to write a number. -/
def unwritableMessage : String :=
  "Exceeds the limit (4300 digits) for integer string conversion; " ++
    "use sys.set_int_max_str_digits() to increase the limit"

theorem unwritable?_eq_none_iff {numbers : List Int} :
    unwritable? numbers = none ↔ ∀ n ∈ numbers, isWritable n = true := by
  simp [unwritable?]

theorem of_unwritable?_eq_some {numbers : List Int} {n : Int} (h : unwritable? numbers = some n) :
    n ∈ numbers ∧ isWritable n = false :=
  ⟨List.mem_of_find?_eq_some h, by simpa using List.find?_some h⟩

/-- A run of digits is refused exactly if it is longer than the limit. -/
theorem readDigits_eq_error_iff {digits : List Char} {e : TooLong} :
    readDigits digits = .error e ↔ maxDigits < digits.length ∧ e = ⟨digits.length⟩ := by
  unfold readDigits
  split
  · rename_i h
    simp [Nat.not_lt.2 h]
  · rename_i h
    simp [Nat.lt_of_not_le h, eq_comm]

private theorem isWritable_of_readDigits {digits : List Char} {k : Nat} {n : Int} (h : readDigits digits = .ok k)
    (magnitude : n.natAbs = k) : isWritable n = true := by
  unfold readDigits at h
  split at h
  · rename_i few
    rw [isWritable, magnitude, ← Except.ok.inj h]
    -- the limit is kept closed, so that nobody computes its power
    generalize maxDigits = limit at few ⊢
    exact decide_eq_true (Nat.lt_of_lt_of_le (digitsValue_lt digits) (Nat.pow_le_pow_right (by decide) few))
  · cases h

/-- A number that was read off a literal has few enough digits. -/
theorem isWritable_of_read {s : List Char} {n : Int} (h : read s = .ok n) : isWritable n = true := by
  unfold read at h
  split at h
  · rename_i digits
    cases value : readDigits digits with
    | error e => simp [value, Except.map] at h
    | ok k =>
      obtain rfl : -(k : Int) = n := by simpa [value, Except.map] using h
      exact isWritable_of_readDigits value (by rw [Int.natAbs_neg, Int.natAbs_natCast])
  · cases value : readDigits s with
    | error e => simp [value, Except.map] at h
    | ok k =>
      obtain rfl : (k : Int) = n := by simpa [value, Except.map] using h
      exact isWritable_of_readDigits value (Int.natAbs_natCast k)

/-- A number that has few enough digits is read back from its literal. -/
theorem read_write {n : Int} (h : (Nat.toDigits 10 n.natAbs).length ≤ maxDigits) : read (write n) = .ok n := by
  have value : readDigits (Nat.toDigits 10 n.natAbs) = .ok n.natAbs := by
    rw [readDigits, if_pos h, digitsValue_toDigits]
  unfold write
  split
  · simp only [read, value, Except.map, Except.ok.injEq]
    omega
  · have no_sign : ∀ r, Nat.toDigits 10 n.natAbs ≠ '-' :: r := fun r hr => by
      have := @Nat.isDigit_of_mem_toDigits 10 n.natAbs '-' (by decide) (by decide) (by simp [hr])
      simp at this
    simp only [read.eq_2 _ no_sign, value, Except.map, Except.ok.injEq, Int.ofNat_eq_natCast]
    omega

end ModWeave.Decimal
