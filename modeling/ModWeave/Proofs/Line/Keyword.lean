import ModWeave.Line.Kind
import ModWeave.Proofs.Line.Grammar

/-!
# The word behind the number sign

What a line says hangs on one word of it: the run of word characters behind the number sign with which the line
begins (`signWord?`).  A line has a keyword exactly if that word is the keyword once it is written in small letters
(`hasKeyword_iff`), and the word of a numbered command is that word (`signWord?_of_read?`).  So the kinds of lines
exclude each other, and since the word does not change when blanks are taken off the ends of a line
(`signWord?_trim`), it does not matter whether a line is tested with its blanks or without.
-/

namespace ModWeave.Line

open Text

/-! ### Small letters -/

/-- The small letter that a character stands for when case is ignored. -/
def smallLetter (c : Char) : Char := if c = 'ſ' then 's' else if c = 'ı' ∨ c = 'İ' then 'i' else c.toLower

/-- Keywords are written in small ASCII letters. -/
def IsKeyword (word : String) : Prop := ∀ c ∈ word.toList, c.isLower = true

instance (word : String) : Decidable (IsKeyword word) := List.decidableBAll _ _

theorem standsFor_iff {w c : Char} (lower : w.isLower = true) : standsFor w c = true ↔ smallLetter c = w := by
  -- the three letters beyond ASCII are small letters of nothing
  have beyond : ∀ u : Char, u.isLower = false → u ≠ w := by
    rintro u hu rfl
    rw [lower] at hu
    cases hu
  simp only [standsFor, Bool.or_eq_true, Bool.and_eq_true, decide_eq_true_eq]
  unfold smallLetter
  split
  · rename_i long_s
    subst long_s
    constructor
    · rintro ((h | ⟨h, -⟩) | ⟨-, h | h⟩)
      · exact absurd h (beyond _ (by decide))
      · exact h.symm
      · exact absurd h (by decide)
      · exact absurd h (by decide)
    · rintro rfl
      exact Or.inl (Or.inr ⟨rfl, rfl⟩)
  · rename_i not_s
    split
    · rename_i dotless_or_dotted
      have no_capital : c.toLower ≠ w := by
        rcases dotless_or_dotted with rfl | rfl
        · exact beyond _ (by decide)
        · exact beyond _ (by decide)
      constructor
      · rintro ((h | ⟨-, h⟩) | ⟨h, -⟩)
        · exact absurd h no_capital
        · exact absurd h not_s
        · exact h.symm
      · rintro rfl
        exact Or.inr ⟨rfl, dotless_or_dotted⟩
    · rename_i not_i
      constructor
      · rintro ((h | ⟨-, h⟩) | ⟨-, h⟩)
        · exact h
        · exact absurd h not_s
        · exact absurd h not_i
      · exact fun h => Or.inl (Or.inl h)

/-- The words that the letters of a text make up, if it stands in front of something that is dropped. -/
theorem dropWord?_eq_some_iff {word l r : List Char} (lower : ∀ c ∈ word, c.isLower = true) :
    dropWord? word l = some r ↔ ∃ x, l = x ++ r ∧ x.map smallLetter = word := by
  induction word generalizing l with
  | nil =>
    simp only [dropWord?, Option.some.injEq, List.map_eq_nil_iff]
    constructor
    · rintro rfl
      exact ⟨[], rfl, rfl⟩
    · rintro ⟨x, rfl, rfl⟩
      rfl
  | cons w word ih =>
    have first := standsFor_iff (c := l.headD 'a') (lower w (by simp))
    replace ih := @ih l.tail fun c hc => lower c (by simp [hc])
    cases l with
    | nil =>
      simp only [dropWord?, reduceCtorEq, false_iff]
      rintro ⟨x, nil_eq, spelled⟩
      obtain rfl := (List.append_eq_nil_iff.1 nil_eq.symm).1
      cases spelled
    | cons c l =>
      simp only [List.headD_cons, List.tail_cons] at first ih
      unfold dropWord?
      constructor
      · intro dropped
        split at dropped
        · rename_i stands
          obtain ⟨x, rfl, rfl⟩ := ih.1 dropped
          exact ⟨c :: x, rfl, by rw [List.map_cons, first.1 stands]⟩
        · cases dropped
      · rintro ⟨x, l_eq, spelled⟩
        cases x with
        | nil => cases spelled
        | cons d x =>
          obtain ⟨rfl, rfl⟩ := List.cons_eq_cons.1 l_eq
          obtain ⟨letter, rest⟩ := List.cons_eq_cons.1 spelled
          rw [if_pos (first.2 letter)]
          exact ih.2 ⟨x, rfl, rest⟩

theorem toLower_of_not_isUpper {c : Char} (h : c.isUpper = false) : c.toLower = c := by
  unfold Char.toLower
  rw [dif_neg (of_decide_eq_false h)]

theorem isWord_of_smallLetter {c : Char} (h : (smallLetter c).isLower = true) : isWord c = true := by
  unfold smallLetter at h
  split at h
  · rename_i long_s
    subst long_s
    decide +kernel
  · split at h
    · rename_i i
      rcases i with rfl | rfl <;> decide +kernel
    · have ascii : c.isAlphanum = true := by
        show ((c.isUpper || c.isLower) || c.isDigit) = true
        cases upper : c.isUpper with
        | true => rfl
        | false =>
          rw [toLower_of_not_isUpper upper] at h
          rw [h]
          rfl
      exact IdCommand.isWord_of_isWordRest (by simp [IdCommand.isWordRest, ascii])

/-- Among ASCII word characters only the case is ignored. -/
theorem smallLetter_of_isWordRest {c : Char} (h : IdCommand.isWordRest c = true) : smallLetter c = c.toLower := by
  have beyond : ∀ u : Char, IdCommand.isWordRest u = false → c ≠ u := by
    rintro u hu rfl
    rw [h] at hu
    cases hu
  rw [smallLetter, if_neg (beyond _ (by decide)), if_neg]
  rintro (h | h)
  · exact beyond _ (by decide) h
  · exact beyond _ (by decide) h

/-! ### The word -/

/-- The word behind the number sign at the beginning of a line. -/
def signWord? (l : Line) : Option Line :=
  match trimLeft l with
  | '#' :: s => some (s.takeWhile isWord)
  | _ => none

theorem signWord?_of_dash (l : Line) : signWord? ('-' :: l) = none := rfl

theorem atWordEnd_iff {r : Line} : atWordEnd r = true ↔ ∀ c ∈ r.head?, isWord c = false := by
  cases r with
  | nil => simp [atWordEnd]
  | cons c r => simp [atWordEnd]

/-- A line has a keyword exactly if its word is the keyword in small letters. -/
theorem hasKeyword_iff {word : String} (keyword : IsKeyword word) {l : Line} :
    hasKeyword word l = true ↔ ∃ x, signWord? l = some x ∧ x.map smallLetter = word.toList := by
  unfold hasKeyword afterKeyword? signWord?
  generalize trimLeft l = t
  split
  · rename_i s
    simp only [Option.any_eq_true, dropWord?_eq_some_iff keyword, atWordEnd_iff, Option.some.injEq]
    constructor
    · rintro ⟨r, ⟨x, rfl, spelled⟩, stop⟩
      have inside : ∀ c ∈ x, isWord c = true := fun c hc =>
        isWord_of_smallLetter (keyword _ (spelled ▸ List.mem_map_of_mem hc))
      exact ⟨x, takeWhile_append_stop inside stop, spelled⟩
    · rintro ⟨_, rfl, spelled⟩
      refine ⟨s.dropWhile isWord, ⟨_, List.takeWhile_append_dropWhile.symm, spelled⟩, fun c hc => ?_⟩
      have := List.head?_dropWhile_not isWord s
      rw [Option.mem_def.1 hc] at this
      simpa using this
  · simp

/-- The word of a numbered command is the word behind the number sign. -/
theorem signWord?_of_read? {l : Line} {p : IdCommand} (h : IdCommand.read? l = some p) : signWord? l = some p.word := by
  obtain ⟨wf, rfl⟩ := IdCommand.read?_eq_some_iff.1 h
  have not_blank : ∀ d ∈ p.body.head?, isBlank d = false := by
    rintro _ ⟨⟩
    decide
  have stop : ∀ d ∈ (p.argument.gap ++ p.argument.literal ++ p.argument.rest).head?, isWord d = false := by
    have ne := wf.argument.gap_ne_nil
    have gap := wf.argument.gap
    cases hg : p.argument.gap with
    | nil => exact absurd hg ne
    | cons g gs =>
      rintro _ ⟨⟩
      exact isWord_of_isBlank (Argument.isBlank_of_isGap (gap g (by simp [hg])))
  have word : ∀ c ∈ p.word, isWord c = true := fun c hc => IdCommand.isWord_of_isWordRest (wf.isWordRest c hc)
  rw [signWord?, trimLeft, dropWhile_append_stop wf.lead not_blank, IdCommand.body]
  simp only [List.append_assoc, List.cons_append]
  rw [← List.append_assoc p.argument.gap, takeWhile_append_stop word stop]

/-- A numbered command has a keyword exactly if its word is that keyword, but for the case of its letters. -/
theorem hasKeyword_iff_of_read? {word : String} (keyword : IsKeyword word) {l : Line} {p : IdCommand}
    (h : IdCommand.read? l = some p) : hasKeyword word l = true ↔ p.word.map Char.toLower = word.toList := by
  have small : p.word.map smallLetter = p.word.map Char.toLower :=
    List.map_congr_left fun c hc =>
      smallLetter_of_isWordRest ((IdCommand.read?_eq_some_iff.1 h).1.isWordRest c hc)
  rw [hasKeyword_iff keyword, signWord?_of_read? h]
  simp [small]

/-! ### Blanks at the ends of a line -/

theorem signWord?_trim (l : Line) : signWord? (trim l) = signWord? l := by
  obtain ⟨b, blank, eq⟩ := exists_eq_trimRight_append (trimLeft l)
  unfold signWord?
  rw [trimLeft_trim, eq, ← trim]
  cases ht : trim l with
  | nil =>
    -- what is left of a line of blanks begins with no number sign
    cases b with
    | nil => rfl
    | cons c b =>
      have : c ≠ '#' := by
        rintro rfl
        exact absurd (blank '#' (by simp)) (by decide)
      simp [this]
  | cons c s =>
    have stop : ∀ d ∈ b.head?, isWord d = false := fun d hd => isWord_of_isBlank (blank d (List.mem_of_mem_head? hd))
    have cut : (s ++ b).takeWhile isWord = s.takeWhile isWord := by
      rw [List.takeWhile_append]
      split
      · have : b.takeWhile isWord = [] := by simpa using takeWhile_append_stop (a := []) (by simp) stop
        rw [this, List.append_nil]
        rename_i whole
        exact (List.takeWhile_sublist _).eq_of_length whole |>.symm
      · rfl
    by_cases sign : c = '#'
    · subst sign
      simp [cut]
    · simp [sign]

theorem hasKeyword_trim {word : String} (keyword : IsKeyword word) (l : Line) :
    hasKeyword word (trim l) = hasKeyword word l := by
  rw [Bool.eq_iff_iff, hasKeyword_iff keyword, hasKeyword_iff keyword, signWord?_trim]

end ModWeave.Line
