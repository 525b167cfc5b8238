import ModWeave.Line.Shape

/-!
# The grammar of numbered commands

`Argument.read?` and `IdCommand.read?` cut a text greedily.  Here they are compared with a grammar that says what the
parts are made of and where a literal may end: the readers find exactly the parts that the grammar allows
(`Argument.read?_eq_some_iff`, `IdCommand.read?_eq_some_iff`), so that a line has at most one reading and later proofs
need not follow the cutting.  The reason is that the characters of one part cannot begin the next: blanks and points
are no word characters, while digits of any script are.
-/

namespace ModWeave

/-! ### Characters -/

namespace Text

-- the two tests over all word ranges are written with Boolean comparisons, which are computed much faster
private theorem blanks_apart_wordRanges : ∀ b ∈ blanks, ∀ w ∈ wordRanges, b.2 < w.1 ∨ w.2 < b.1 := by
  have test : (blanks.all fun b => wordRanges.all fun w => Nat.blt b.2 w.1 || Nat.blt w.2 b.1) = true := by
    decide +kernel
  intro b hb w hw
  simpa [Nat.blt_eq] using List.all_eq_true.1 (List.all_eq_true.1 test b hb) w hw

private theorem digits_in_wordRanges : ∀ z ∈ zeroDigits, z < 0x80 ∨ ∃ w ∈ wordRanges, w.1 ≤ z ∧ z + 9 ≤ w.2 := by
  have test : (zeroDigits.all fun z =>
      Nat.blt z 0x80 || wordRanges.any fun w => Nat.ble w.1 z && Nat.ble (z + 9) w.2) = true := by
    decide +kernel
  intro z hz
  rcases Bool.or_eq_true_iff.1 (List.all_eq_true.1 test z hz) with ascii | wide
  · exact Or.inl (by rwa [Nat.blt_eq] at ascii)
  · obtain ⟨w, hw, inside⟩ := List.any_eq_true.1 wide
    rw [Bool.and_eq_true, Nat.ble_eq, Nat.ble_eq] at inside
    exact Or.inr ⟨w, hw, inside⟩

private theorem blanks_apart_ascii_letters : ∀ b ∈ blanks, ∀ w ∈ [(0x30, 0x39), (0x41, 0x5A), (0x5F, 0x5F), (0x61, 0x7A)],
    b.2 < w.1 ∨ w.2 < b.1 := by decide

theorem isUpper_iff {c : Char} : c.isUpper = true ↔ 0x41 ≤ c.toNat ∧ c.toNat ≤ 0x5A := by
  show decide ('A'.val ≤ c.val ∧ c.val ≤ 'Z'.val) = true ↔ _
  rw [decide_eq_true_iff, UInt32.le_iff_toNat_le, UInt32.le_iff_toNat_le]
  rfl

private theorem isLower_iff {c : Char} : c.isLower = true ↔ 0x61 ≤ c.toNat ∧ c.toNat ≤ 0x7A := by
  show (decide ('a'.val ≤ c.val) && decide (c.val ≤ 'z'.val)) = true ↔ _
  rw [Bool.and_eq_true, decide_eq_true_iff, decide_eq_true_iff, UInt32.le_iff_toNat_le, UInt32.le_iff_toNat_le]
  rfl

private theorem isAsciiDigit_iff {c : Char} : c.isDigit = true ↔ 0x30 ≤ c.toNat ∧ c.toNat ≤ 0x39 := by
  rw [Char.isDigit, Bool.and_eq_true, decide_eq_true_iff, decide_eq_true_iff, ge_iff_le, UInt32.le_iff_toNat_le,
    UInt32.le_iff_toNat_le]
  rfl

/-- The ASCII word characters by their code points. -/
private theorem ascii_word {c : Char} (h : (c.isAlphanum || c = '_') = true) :
    ∃ w ∈ [(0x30, 0x39), (0x41, 0x5A), (0x5F, 0x5F), (0x61, 0x7A)], w.1 ≤ c.toNat ∧ c.toNat ≤ w.2 := by
  have kinds : (((c.isUpper || c.isLower) || c.isDigit) || decide (c = '_')) = true := h
  simp only [Bool.or_eq_true, isUpper_iff, isLower_iff, isAsciiDigit_iff, decide_eq_true_eq] at kinds
  rcases kinds with ((⟨low, high⟩ | ⟨low, high⟩) | ⟨low, high⟩) | rfl
  · exact ⟨(0x41, 0x5A), by simp, low, high⟩
  · exact ⟨(0x61, 0x7A), by simp, low, high⟩
  · exact ⟨(0x30, 0x39), by simp, low, high⟩
  · exact ⟨(0x5F, 0x5F), by simp, by decide, by decide⟩

theorem isWord_of_isBlank {c : Char} (h : isBlank c = true) : isWord c = false := by
  obtain ⟨b, hb, low, high⟩ := CodeRanges.has_iff.1 h
  refine Bool.eq_false_iff.2 fun word => ?_
  unfold isWord at word
  split at word
  · obtain ⟨w, hw, low', high'⟩ := ascii_word word
    have := blanks_apart_ascii_letters b hb w hw
    omega
  · obtain ⟨w, hw, low', high'⟩ := CodeRanges.has_iff.1 word
    have := blanks_apart_wordRanges b hb w hw
    omega

theorem isWord_of_isDigit {c : Char} (h : isDigit c = true) : isWord c = true := by
  unfold isDigit digitValue? at h
  unfold isWord
  split at h
  · rename_i ascii
    rw [if_pos ascii]
    split at h
    · rename_i digit
      simp [Char.isAlphanum, digit]
    · cases h
  · rename_i not_ascii
    rw [if_neg not_ascii]
    obtain ⟨v, found⟩ := Option.isSome_iff_exists.1 h
    obtain ⟨z, hz, -⟩ := Option.map_eq_some_iff.1 found
    have bounds := List.find?_some hz
    simp only [Bool.and_eq_true, decide_eq_true_eq] at bounds
    rcases digits_in_wordRanges z (List.mem_of_find?_eq_some hz) with ascii | ⟨w, hw, low, high⟩
    · -- the only run of digits below 0x80 is that of ASCII
      have : ∀ z ∈ zeroDigits, z < 0x80 → z + 10 ≤ 0x80 := by decide
      have := this z (List.mem_of_find?_eq_some hz) ascii
      omega
    · exact CodeRanges.has_iff.2 ⟨w, hw, by omega, by omega⟩

end Text

namespace Line

open Text

/-! ### Greedy cuts -/

theorem takeWhile_append_stop {p : Char → Bool} {a b : Line} (inside : ∀ c ∈ a, p c = true)
    (stop : ∀ c ∈ b.head?, p c = false) : (a ++ b).takeWhile p = a := by
  rw [List.takeWhile_append_of_pos inside]
  cases b with
  | nil => simp
  | cons c b => simp [stop c rfl]

theorem dropWhile_append_stop {p : Char → Bool} {a b : Line} (inside : ∀ c ∈ a, p c = true)
    (stop : ∀ c ∈ b.head?, p c = false) : (a ++ b).dropWhile p = b := by
  rw [List.dropWhile_append_of_pos inside]
  cases b with
  | nil => rfl
  | cons c b => simp [stop c rfl]

/-! ### Arguments -/

/-- An integer literal: digits with or without a minus sign in front. -/
def IsLiteral (s : Line) : Prop :=
  ∃ digits, digits ≠ [] ∧ (∀ c ∈ digits, isDigit c = true) ∧ (s = digits ∨ s = '-' :: digits)

namespace Argument

/-- What the parts of an argument are made of. -/
structure WellFormed (a : Argument) : Prop where
  gap_ne_nil : a.gap ≠ []
  gap : ∀ c ∈ a.gap, isGap c = true
  literal : IsLiteral a.literal
  rest : endsBefore a.rest = true

theorem isBlank_of_isGap {c : Char} (h : isGap c = true) : isBlank c = true := by
  simp only [isGap, Bool.or_eq_true, decide_eq_true_eq] at h
  rcases h with rfl | rfl <;> decide

/-- Nothing that ends a literal begins with a word character. -/
theorem isWord_head_of_endsBefore {l : Line} (h : endsBefore l = true) : ∀ c ∈ l.head?, isWord c = false := by
  cases l with
  | nil => simp
  | cons c l =>
    rintro _ ⟨⟩
    simp only [endsBefore, Bool.and_eq_true, Bool.not_eq_true'] at h
    exact h.1

private theorem isGap_of_isDigit {c : Char} (h : isDigit c = true) : isGap c = false := by
  refine Bool.eq_false_iff.2 fun gap => ?_
  have := isWord_of_isBlank (isBlank_of_isGap gap)
  rw [isWord_of_isDigit h] at this
  cases this

theorem isGap_head_literal {s : Line} (h : IsLiteral s) (rest : Line) : ∀ c ∈ (s ++ rest).head?, isGap c = false := by
  obtain ⟨digits, ne, digit, rfl | rfl⟩ := h
  · cases s with
    | nil => exact absurd rfl ne
    | cons d s =>
      rintro _ ⟨⟩
      exact isGap_of_isDigit (digit d (by simp))
  · rintro _ ⟨⟩
    decide

/-- A literal in front of what can end one is cut off as a whole. -/
private theorem sign_and_digits {s rest : Line} (h : IsLiteral s) (stop : ∀ c ∈ rest.head?, isDigit c = false) :
    ∃ digits, digits ≠ [] ∧ s = sign (s ++ rest) ++ digits ∧
      ((s ++ rest).drop (sign (s ++ rest)).length).takeWhile isDigit = digits ∧
      ((s ++ rest).drop (sign (s ++ rest)).length).dropWhile isDigit = rest := by
  obtain ⟨digits, ne, digit, rfl | rfl⟩ := h
  · have no_sign : sign (s ++ rest) = [] := by
      cases s with
      | nil => exact absurd rfl ne
      | cons d s =>
        unfold sign
        split
        · rename_i heq
          obtain ⟨rfl, -⟩ := List.cons_eq_cons.1 heq
          exact absurd (digit '-' (by simp)) (by decide)
        · rfl
    refine ⟨s, ne, by rw [no_sign, List.nil_append], ?_, ?_⟩
    · rw [no_sign]; exact takeWhile_append_stop digit stop
    · rw [no_sign]; exact dropWhile_append_stop digit stop
  · exact ⟨digits, ne, rfl, takeWhile_append_stop digit stop, dropWhile_append_stop digit stop⟩

/-- Reading finds exactly the parts that the grammar allows. -/
theorem read?_eq_some_iff {l : Line} {a : Argument} :
    read? l = some a ↔ a.WellFormed ∧ l = a.gap ++ a.literal ++ a.rest := by
  constructor
  · intro h
    refine ⟨?_, line_eq_of_read? h⟩
    simp only [read?] at h
    split at h
    · rename_i found
      cases h
      refine ⟨found.1, fun c hc => List.all_eq_true.1 List.all_takeWhile c hc, ⟨_, found.2.1,
        fun c hc => List.all_eq_true.1 List.all_takeWhile c hc, ?_⟩, found.2.2⟩
      unfold sign
      split <;> simp
    · cases h
  · rintro ⟨wf, rfl⟩
    have stop : ∀ c ∈ a.rest.head?, isDigit c = false := fun c hc =>
      Bool.eq_false_iff.2 fun digit => by
        have := isWord_head_of_endsBefore wf.rest c hc
        rw [isWord_of_isDigit digit] at this
        cases this
    obtain ⟨digits, ne, literal_eq, take_eq, drop_eq⟩ := sign_and_digits wf.literal stop
    have gap_stop := isGap_head_literal wf.literal a.rest
    simp only [read?, List.append_assoc]
    rw [takeWhile_append_stop wf.gap gap_stop, dropWhile_append_stop wf.gap gap_stop, take_eq, drop_eq,
      if_pos ⟨wf.gap_ne_nil, ne, wf.rest⟩, ← literal_eq]

end Argument

/-! ### Commands -/

namespace IdCommand

/-- What the parts of a command are made of. -/
structure WellFormed (p : IdCommand) : Prop where
  lead : ∀ c ∈ p.lead, isBlank c = true
  word : ∃ c r, p.word = c :: r ∧ isWordStart c = true ∧ ∀ d ∈ r, isWordRest d = true
  argument : p.argument.WellFormed

/-- The text of a command behind the blanks in front of it. -/
def body (p : IdCommand) : Line := '#' :: p.word ++ p.argument.gap ++ p.argument.literal ++ p.argument.rest

theorem isWord_of_isWordRest {c : Char} (h : isWordRest c = true) : isWord c = true := by
  have ascii : c.toNat < 0x80 := by
    obtain ⟨w, hw, low, high⟩ := ascii_word h
    have : ∀ w ∈ [(0x30, 0x39), (0x41, 0x5A), (0x5F, 0x5F), (0x61, 0x7A)], w.2 < 0x80 := by decide
    have := this w hw
    omega
  rw [isWord, if_pos ascii]
  exact h

theorem isWordRest_of_isWordStart {c : Char} (h : isWordStart c = true) : isWordRest c = true := by
  simp only [isWordStart, isWordRest, Char.isAlphanum, Bool.or_eq_true] at h ⊢
  rcases h with h | h
  · exact Or.inl (Or.inl h)
  · exact Or.inr h

theorem WellFormed.isWordRest {p : IdCommand} (h : p.WellFormed) : ∀ c ∈ p.word, isWordRest c = true := by
  obtain ⟨c, r, word_eq, start, rest⟩ := h.word
  rw [word_eq]
  intro d hd
  rcases List.mem_cons.1 hd with rfl | hd
  · exact isWordRest_of_isWordStart start
  · exact rest d hd

theorem isWordRest_of_isGap {c : Char} (h : Argument.isGap c = true) : isWordRest c = false := by
  simp only [Argument.isGap, Bool.or_eq_true, decide_eq_true_eq] at h
  rcases h with rfl | rfl <;> decide

/-- Reading finds exactly the parts that the grammar allows. -/
theorem read?_eq_some_iff {l : Line} {p : IdCommand} :
    read? l = some p ↔ p.WellFormed ∧ l = p.lead ++ p.body := by
  constructor
  · intro h
    refine ⟨?_, by simpa [body] using line_eq_of_read? h⟩
    unfold read? at h
    split at h
    · rename_i c r hl
      split at h
      · rename_i start
        obtain ⟨a, ha, rfl⟩ := Option.map_eq_some_iff.1 h
        exact ⟨fun d hd => List.all_eq_true.1 List.all_takeWhile d hd,
          ⟨c, _, rfl, start, fun d hd => List.all_eq_true.1 List.all_takeWhile d hd⟩,
          (Argument.read?_eq_some_iff.1 ha).1⟩
      · cases h
    · cases h
  · rintro ⟨wf, rfl⟩
    obtain ⟨c, r, word_eq, start, rest⟩ := wf.word
    have not_blank : ∀ d ∈ p.body.head?, isBlank d = false := by
      rintro _ ⟨⟩
      decide
    have gap_head : ∀ d ∈ (p.argument.gap ++ p.argument.literal ++ p.argument.rest).head?, isWordRest d = false := by
      have ne := wf.argument.gap_ne_nil
      have gap := wf.argument.gap
      cases hg : p.argument.gap with
      | nil => exact absurd hg ne
      | cons g gs =>
        rintro _ ⟨⟩
        exact isWordRest_of_isGap (gap g (by simp [hg]))
    have argument : Argument.read? (p.argument.gap ++ p.argument.literal ++ p.argument.rest) = some p.argument :=
      Argument.read?_eq_some_iff.2 ⟨wf.argument, rfl⟩
    have trimmed : trimLeft (p.lead ++ p.body) =
        '#' :: c :: (r ++ (p.argument.gap ++ p.argument.literal ++ p.argument.rest)) := by
      rw [trimLeft, dropWhile_append_stop wf.lead not_blank, body, word_eq]
      simp
    unfold read?
    rw [trimmed]
    simp only [start, if_true]
    rw [dropWhile_append_stop rest gap_head, takeWhile_append_stop rest gap_head, argument,
      takeWhile_append_stop wf.lead not_blank, Option.map_some, ← word_eq]

end IdCommand

end Line

end ModWeave
