import ModWeave.Text.CodeRanges

/-!
# Blank characters

A character is blank if Unicode calls it white space or if it is one of the four information separators
U+001C to U+001F.  `trim` takes blanks off both ends of a text; what is left starts and ends with a character
that is not blank, and trimming again changes nothing (`trim_trim`).
-/

namespace ModWeave.Text

/-- The ranges of blank characters. -/
def blanks : CodeRanges :=
  [(0x09, 0x0D), (0x1C, 0x20), (0x85, 0x85), (0xA0, 0xA0), (0x1680, 0x1680), (0x2000, 0x200A), (0x2028, 0x2029),
    (0x202F, 0x202F), (0x205F, 0x205F), (0x3000, 0x3000)]

/-- Whether a character is white space or an information separator. -/
def isBlank (c : Char) : Bool := blanks.has c

/-- A text without its leading blanks. -/
def trimLeft (s : List Char) : List Char := s.dropWhile isBlank

/-- A text without its trailing blanks. -/
def trimRight (s : List Char) : List Char := (s.reverse.dropWhile isBlank).reverse

/-- A text without the blanks at its ends. -/
def trim (s : List Char) : List Char := trimRight (trimLeft s)

private theorem dropWhile_dropWhile (p : Char → Bool) (s : List Char) :
    (s.dropWhile p).dropWhile p = s.dropWhile p := by
  induction s with
  | nil => rfl
  | cons c s ih => by_cases h : p c <;> simp [h, ih]

theorem trimRight_trimRight (s : List Char) : trimRight (trimRight s) = trimRight s := by
  simp [trimRight, dropWhile_dropWhile]

/-- Taking blanks off the right end of a text that does not start with one leaves its start alone. -/
private theorem trimLeft_trimRight_of_head {s : List Char} (h : ∀ c ∈ s.head?, isBlank c = false) :
    trimLeft (trimRight s) = trimRight s := by
  cases s with
  | nil => rfl
  | cons c s =>
    have hc : isBlank c = false := h c (by simp)
    obtain ⟨t, ht⟩ : ∃ t, trimRight (c :: s) = c :: t := by
      suffices ∀ u : List Char, ∃ v, (u ++ [c]).dropWhile isBlank = v ++ [c] by
        obtain ⟨v, hv⟩ := this s.reverse
        exact ⟨v.reverse, by simp [trimRight, hv]⟩
      intro u
      induction u with
      | nil => exact ⟨[], by simp [hc]⟩
      | cons d u ih =>
        by_cases hd : isBlank d
        · simpa [hd] using ih
        · exact ⟨d :: u, by simp [hd]⟩
    simp [ht, trimLeft, hc]

/-- The first character of a text without its leading blanks is not blank. -/
theorem head_trimLeft {s : List Char} : ∀ c ∈ (trimLeft s).head?, isBlank c = false := by
  intro c hc
  have := List.head?_dropWhile_not isBlank s
  rw [← trimLeft, Option.mem_def.1 hc] at this
  simpa using this

/-- A trimmed text has no leading blanks. -/
theorem trimLeft_trim (s : List Char) : trimLeft (trim s) = trim s := trimLeft_trimRight_of_head head_trimLeft

/-- A trimmed text is left alone by another trim. -/
theorem trim_trim (s : List Char) : trim (trim s) = trim s := by
  rw [trim, trimLeft_trim, trim, trimRight_trimRight]

/-- Taking blanks off the right end takes off nothing but blanks. -/
theorem exists_eq_trimRight_append (s : List Char) :
    ∃ b, (∀ c ∈ b, isBlank c = true) ∧ s = trimRight s ++ b := by
  refine ⟨(s.reverse.takeWhile isBlank).reverse,
    fun c hc => List.all_eq_true.1 List.all_takeWhile c (List.mem_reverse.1 hc), ?_⟩
  rw [trimRight, ← List.reverse_append, List.takeWhile_append_dropWhile, List.reverse_reverse]

/-- Only what follows the last character that is not blank can be taken off. -/
theorem trimRight_append {s t : List Char} (h : ∀ c ∈ s.getLast?, isBlank c = false) :
    trimRight (s ++ t) = s ++ trimRight t := by
  unfold trimRight
  rw [List.reverse_append, List.dropWhile_append]
  split
  · rename_i blank
    have head : ∀ c ∈ s.reverse.head?, isBlank c = false := by rwa [List.head?_reverse]
    have kept : s.reverse.dropWhile isBlank = s.reverse := by
      cases hs : s.reverse with
      | nil => rfl
      | cons c u =>
        have := head c (by simp [hs])
        simp [this]
    rw [kept, List.reverse_reverse, List.isEmpty_iff.1 blank, List.reverse_nil, List.append_nil]
  · rw [List.reverse_append, List.reverse_reverse]

end ModWeave.Text
