/-!
# Decimal digits

Unicode keeps its decimal digits in runs of ten consecutive code points, zero first.  The list of the zeros
therefore gives both the digits and their values.  A number written in ASCII digits has its own value
(`digitsValue_toDigits`).
-/

namespace ModWeave.Text

/-- The code points of the digits of value zero. -/
def zeroDigits : List Nat := [
  0x30, 0x660, 0x6F0, 0x7C0, 0x966, 0x9E6, 0xA66, 0xAE6, 0xB66, 0xBE6, 0xC66, 0xCE6, 0xD66, 0xDE6, 0xE50,
  0xED0, 0xF20, 0x1040, 0x1090, 0x17E0, 0x1810, 0x1946, 0x19D0, 0x1A80, 0x1A90, 0x1B50, 0x1BB0, 0x1C40,
  0x1C50, 0xA620, 0xA8D0, 0xA900, 0xA9D0, 0xA9F0, 0xAA50, 0xABF0, 0xFF10, 0x104A0, 0x10D30, 0x11066,
  0x110F0, 0x11136, 0x111D0, 0x112F0, 0x11450, 0x114D0, 0x11650, 0x116C0, 0x11730, 0x118E0, 0x11950,
  0x11C50, 0x11D50, 0x11DA0, 0x16A60, 0x16AC0, 0x16B50, 0x1D7CE, 0x1D7D8, 0x1D7E2, 0x1D7EC, 0x1D7F6,
  0x1E140, 0x1E2F0, 0x1E950, 0x1FBF0]

/-- The value of a decimal digit of any script. -/
def digitValue? (c : Char) : Option Nat :=
  if c.toNat < 0x80 then
    if c.isDigit then some (c.toNat - 0x30) else none
  else
    (zeroDigits.find? fun z => z ≤ c.toNat && c.toNat < z + 10).map fun z => c.toNat - z

/-- Whether a character is a decimal digit of any script. -/
def isDigit (c : Char) : Bool := (digitValue? c).isSome

/-- The number that a run of digits writes; characters that are no digits count as zeros. -/
def digitsValue (s : List Char) : Nat :=
  s.foldl (fun n c => 10 * n + (digitValue? c).getD 0) 0

/-- A digit is worth less than ten. -/
theorem digitValue?_lt {c : Char} {v : Nat} (h : digitValue? c = some v) : v < 10 := by
  unfold digitValue? at h
  split at h
  · split at h
    · rename_i hd
      simp only [Char.isDigit, Bool.and_eq_true, decide_eq_true_eq, UInt32.le_iff_toNat_le] at hd
      cases h
      have : c.toNat ≤ 57 := hd.2
      omega
    · cases h
  · obtain ⟨z, hz, rfl⟩ := Option.map_eq_some_iff.1 h
    have := List.find?_some hz
    simp at this
    omega

/-- A run of digits writes a number that needs no more digits. -/
theorem digitsValue_lt (s : List Char) : digitsValue s < Nat.pow 10 s.length := by
  have from_value : ∀ n, s.foldl (fun n c => 10 * n + (digitValue? c).getD 0) n < (n + 1) * Nat.pow 10 s.length := by
    induction s with
    | nil =>
      intro n
      show n < (n + 1) * 1
      omega
    | cons c s ih =>
      intro n
      have digit : (digitValue? c).getD 0 < 10 := by
        cases value : digitValue? c with
        | none => simp
        | some v => exact digitValue?_lt value
      calc (c :: s).foldl (fun n c => 10 * n + (digitValue? c).getD 0) n
          < (10 * n + (digitValue? c).getD 0 + 1) * Nat.pow 10 s.length := ih _
        _ ≤ ((n + 1) * 10) * Nat.pow 10 s.length := Nat.mul_le_mul_right _ (by omega)
        _ = (n + 1) * (Nat.pow 10 s.length * 10) := by rw [Nat.mul_assoc, Nat.mul_comm 10]
  calc digitsValue s < (0 + 1) * Nat.pow 10 s.length := from_value 0
    _ = Nat.pow 10 s.length := Nat.one_mul _

/-- An ASCII digit is worth its distance from the digit zero. -/
theorem digitValue?_of_isDigit {c : Char} (h : c.isDigit = true) : digitValue? c = some (c.toNat - 0x30) := by
  have ascii : c.toNat < 0x80 := by
    simp only [Char.isDigit, Bool.and_eq_true, decide_eq_true_eq, UInt32.le_iff_toNat_le] at h
    have : c.toNat ≤ 57 := h.2
    omega
  simp [digitValue?, ascii, h]

private theorem foldl_eq_ofDigitChars {s : List Char} (h : ∀ c ∈ s, c.isDigit = true) (n : Nat) :
    s.foldl (fun n c => 10 * n + (digitValue? c).getD 0) n = Nat.ofDigitChars 10 s n := by
  induction s generalizing n with
  | nil => simp [Nat.ofDigitChars]
  | cons c s ih =>
    simp only [List.foldl_cons, digitValue?_of_isDigit (h c (by simp)), Option.getD_some]
    rw [ih fun d hd => h d (by simp [hd]), Nat.ofDigitChars_cons]
    rfl

/-- The decimal digits of a number write that number. -/
theorem digitsValue_toDigits (n : Nat) : digitsValue (Nat.toDigits 10 n) = n := by
  rw [digitsValue, foldl_eq_ofDigitChars fun c hc => Nat.isDigit_of_mem_toDigits (by decide) (by decide) hc]
  exact Nat.ofDigitChars_toDigits (by decide) (by decide)

end ModWeave.Text
