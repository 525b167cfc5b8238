import ModWeave.Text.Lines

/-!
# Unreadable characters

Byte order marks, zero-width characters and control characters other than the tabulator and the line ends are
unreadable: commands are looked for on the line without them.  `clean` removes them.  `beforeReadable n` and
`afterReadable n` cut the line as it is written at its `n`-th readable character, so that a span of the cleaned
line can be found again on the line itself.
-/

namespace ModWeave.Line

open Text

/-- Whether a character is left out when a line is read. -/
def isUnreadable (c : Char) : Bool :=
  c = '\uFEFF' || c = '\u200B' || c = '\u200C' || c = '\u200D' || c = '\u2060' || c.toNat ≤ 0x08 || c = '\x0B' ||
    c = '\x0C' || (0x0E ≤ c.toNat && c.toNat ≤ 0x1F) || c = '\x7F'

/-- The readable characters of a line. -/
def clean (l : Line) : Line := l.filter fun c => !isUnreadable c

/-- What stands in front of the readable character number `n`, counted from zero. -/
def beforeReadable : Nat → Line → Line
  | _, [] => []
  | 0, c :: l => if isUnreadable c then c :: beforeReadable 0 l else []
  | n + 1, c :: l => if isUnreadable c then c :: beforeReadable (n + 1) l else c :: beforeReadable n l

/-- What follows the first `n` readable characters. -/
def afterReadable : Nat → Line → Line
  | 0, l => l
  | _ + 1, [] => []
  | n + 1, c :: l => if isUnreadable c then afterReadable (n + 1) l else afterReadable n l

theorem clean_append (l m : Line) : clean (l ++ m) = clean l ++ clean m := List.filter_append ..

theorem clean_clean (l : Line) : clean (clean l) = clean l := by simp [clean]

/-- The part in front of readable character `n` holds the first `n` readable characters. -/
theorem clean_beforeReadable (n : Nat) (l : Line) : clean (beforeReadable n l) = (clean l).take n := by
  induction l generalizing n with
  | nil => cases n <;> simp [beforeReadable, clean]
  | cons c l ih =>
    cases n with
    | zero => by_cases h : isUnreadable c <;> simp_all [beforeReadable, clean]
    | succ n => by_cases h : isUnreadable c <;> simp_all [beforeReadable, clean]

/-- The part after `n` readable characters holds the others. -/
theorem clean_afterReadable (n : Nat) (l : Line) : clean (afterReadable n l) = (clean l).drop n := by
  induction l generalizing n with
  | nil => cases n <;> simp [afterReadable, clean]
  | cons c l ih =>
    cases n with
    | zero => simp [afterReadable]
    | succ n => by_cases h : isUnreadable c <;> simp_all [afterReadable, clean]

end ModWeave.Line
