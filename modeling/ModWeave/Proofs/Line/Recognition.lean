import Mathlib.Data.List.Nodup
import ModWeave.Proofs.Line.Kinds

/-!
# Which commands are recognised

A `Usage` of a command is a line that gives it a number, with every freedom that such a line has: blanks in front,
capital letters in the command word, any gap, a literal of either sign in digits of any script, and anything behind the
literal that does not go on with it.  Inside a block every usage of a command of the table is read as the token that it
is meant to be, except that a command whose word begins with a digit is never recognised (`idToken?_usage`): a command
word has to begin with a letter or the underscore, which the words of the table do not all do (`idToken?_usage_ne`).
-/

namespace ModWeave

/-! ### The words of the table -/

namespace Command

/-- Whether the word of a command begins with a digit. -/
def startsWithDigit (c : Command) : Bool := c.word.head?.any Char.isDigit

/-- A word of ASCII characters as a number, by which words are told apart faster. -/
private def wordNumber (word : List Char) : Nat := word.foldl (fun n c => Nat.add (Nat.mul n 128) c.toNat) 0

-- one computation, since it spends most of its time on taking the words apart
private theorem table_words : (table.map fun c => wordNumber c.word).Nodup ∧
    (table.all fun c => c.word.all Line.IdCommand.isWordRest &&
      decide (c.word.head?.any Line.IdCommand.isWordStart = !c.startsWithDigit)) = true := by decide +kernel

theorem find?_word {c : Command} (hc : c ∈ table) : find? c.word = some c := by
  have found : (find? c.word).isSome = true := List.find?_isSome.2 ⟨c, hc, by simp⟩
  obtain ⟨d, hd⟩ := Option.isSome_iff_exists.1 found
  obtain ⟨mem, same⟩ := mem_table_of_find? hd
  rw [hd, List.inj_on_of_nodup_map table_words.1 mem hc (congrArg wordNumber same)]

/-- The words of the table consist of ASCII word characters, and those that do not begin with a digit begin as the word
of a numbered command has to. -/
theorem word_of_mem_table {c : Command} (hc : c ∈ table) : (∀ x ∈ c.word, Line.IdCommand.isWordRest x = true) ∧
    c.word.head?.any Line.IdCommand.isWordStart = !c.startsWithDigit := by
  have test := List.all_eq_true.1 table_words.2 c hc
  rw [Bool.and_eq_true, List.all_eq_true, decide_eq_true_iff] at test
  exact test

end Command

namespace Line

open Text

private theorem isAlpha_of_isUpper {c : Char} (upper : c.isUpper = true) : c.isAlpha = true := by
  show (c.isUpper || c.isLower) = true
  rw [upper, Bool.true_or]

private theorem isAlpha_toLower {c : Char} (upper : c.isUpper = true) : c.toLower.isAlpha = true := by
  have capitals : ∀ n, n < 26 → (Char.ofNat (0x41 + n)).toLower.isAlpha = true := by decide
  obtain ⟨low, high⟩ := isUpper_iff.1 upper
  have small := capitals (c.toNat - 0x41) (by omega)
  rwa [Nat.add_sub_cancel' low, Char.ofNat_toNat] at small

theorem IdCommand.isWordStart_toLower (c : Char) : IdCommand.isWordStart c.toLower = IdCommand.isWordStart c := by
  cases upper : c.isUpper with
  | true =>
    rw [isWordStart, isWordStart, isAlpha_toLower upper, isAlpha_of_isUpper upper]
    rfl
  | false => rw [toLower_of_not_isUpper upper]

theorem IdCommand.isWordRest_toLower (c : Char) : IdCommand.isWordRest c.toLower = IdCommand.isWordRest c := by
  cases upper : c.isUpper with
  | true =>
    rw [isWordRest, isWordRest, Char.isAlphanum, Char.isAlphanum, isAlpha_toLower upper, isAlpha_of_isUpper upper]
    rfl
  | false => rw [toLower_of_not_isUpper upper]

/-! ### Literals -/

/-- The literal with the given digits, behind a minus sign or not. -/
def literalOf (minus : Bool) (digits : Line) : Line := if minus then '-' :: digits else digits

/-- The value of the literal with the given digits. -/
def valueOf (minus : Bool) (digits : Line) : Int := if minus then -(digitsValue digits : Int) else digitsValue digits

theorem isLiteral_literalOf {digits : Line} (ne : digits ≠ []) (digit : ∀ x ∈ digits, isDigit x = true) (minus : Bool) :
    IsLiteral (literalOf minus digits) := by
  refine ⟨digits, ne, digit, ?_⟩
  cases minus with
  | true => exact Or.inr rfl
  | false => exact Or.inl rfl

theorem read_literalOf {digits : Line} (digit : ∀ x ∈ digits, isDigit x = true)
    (few : digits.length ≤ Decimal.maxDigits) (minus : Bool) :
    Decimal.read (literalOf minus digits) = .ok (valueOf minus digits) := by
  have value : Decimal.readDigits digits = .ok (digitsValue digits) := if_pos few
  cases minus with
  | true => simp only [literalOf, valueOf, if_true, Decimal.read, value, Except.map]
  | false =>
    have no_sign : ∀ r, digits ≠ '-' :: r := by
      rintro r rfl
      exact absurd (digit '-' (by simp)) (by decide)
    simp only [literalOf, valueOf, Bool.false_eq_true, if_false, Decimal.read.eq_2 _ no_sign, value, Except.map,
      Int.ofNat_eq_natCast]

/-! ### Usages -/

/-- A line that gives a number to a command. -/
structure Usage (c : Command) where
  lead : Line
  /-- The command word, with or without capital letters. -/
  word : Line
  gap : Line
  minus : Bool
  digits : Line
  rest : Line
  blank : ∀ x ∈ lead, isBlank x = true
  spelled : word.map Char.toLower = c.word
  gap_ne_nil : gap ≠ []
  gap_chars : ∀ x ∈ gap, x = ' ' ∨ x = '\t'
  digits_ne_nil : digits ≠ []
  digit : ∀ x ∈ digits, isDigit x = true
  few : digits.length ≤ Decimal.maxDigits
  ends : ∀ x ∈ rest.head?, isWord x = false ∧ x ≠ '.'

namespace Usage

variable {c : Command} (u : Usage c)

/-- The parts of the line. -/
def parts : IdCommand := ⟨u.lead, u.word, ⟨u.gap, literalOf u.minus u.digits, u.rest⟩⟩

/-- The line as it is written. -/
def line : Line := u.lead ++ '#' :: u.word ++ u.gap ++ literalOf u.minus u.digits ++ u.rest

/-- The token that the line is meant to hold. -/
def token : IdToken where
  command := c
  number := if c.negated then -valueOf u.minus u.digits else valueOf u.minus u.digits
  start := u.lead.length + 1 + u.word.length + u.gap.length
  stop := u.lead.length + 1 + u.word.length + u.gap.length + (literalOf u.minus u.digits).length

theorem wellFormed_argument : u.parts.argument.WellFormed where
  gap_ne_nil := u.gap_ne_nil
  gap x hx := by simpa [Argument.isGap] using u.gap_chars x hx
  literal := isLiteral_literalOf u.digits_ne_nil u.digit u.minus
  rest := by
    have ends := u.ends
    show Argument.endsBefore u.rest = true
    cases hr : u.rest with
    | nil => rfl
    | cons x r =>
      obtain ⟨not_word, not_point⟩ := ends x (by simp [hr])
      simp [Argument.endsBefore, not_word, not_point]

private theorem head_word {x : Char} {r : Line} (word_eq : u.word = x :: r) :
    c.word.head?.any IdCommand.isWordStart = IdCommand.isWordStart x := by
  rw [← u.spelled, word_eq, List.map_cons, List.head?_cons, Option.any_some, IdCommand.isWordStart_toLower]

theorem read?_line (hc : c ∈ Command.table) (letter : c.startsWithDigit = false) :
    IdCommand.read? u.line = some u.parts := by
  obtain ⟨rest, start⟩ := Command.word_of_mem_table hc
  refine IdCommand.read?_eq_some_iff.2 ⟨⟨u.blank, ?_, u.wellFormed_argument⟩, by simp [line, IdCommand.body, parts]⟩
  show ∃ x r, u.word = x :: r ∧ _
  cases hw : u.word with
  | nil =>
    have spelled := u.spelled
    rw [hw, List.map_nil] at spelled
    rw [← spelled, letter] at start
    cases start
  | cons x r =>
    rw [u.head_word hw, letter, Bool.not_false] at start
    refine ⟨x, r, rfl, start, fun y hy => ?_⟩
    rw [← IdCommand.isWordRest_toLower]
    exact rest _ (u.spelled ▸ List.mem_map_of_mem (by rw [hw]; exact List.mem_cons_of_mem x hy))

theorem read?_line_eq_none (hc : c ∈ Command.table) (digit : c.startsWithDigit = true) :
    IdCommand.read? u.line = none := by
  obtain ⟨-, start⟩ := Command.word_of_mem_table hc
  have not_blank : ∀ x ∈ ('#' :: (u.word ++ (u.gap ++ (literalOf u.minus u.digits ++ u.rest)))).head?,
      isBlank x = false := by
    rintro _ ⟨⟩
    decide
  cases hw : u.word with
  | nil =>
    have spelled := u.spelled
    rw [hw, List.map_nil] at spelled
    rw [Command.startsWithDigit, ← spelled] at digit
    cases digit
  | cons x r =>
    rw [u.head_word hw, digit, Bool.not_true] at start
    have trimmed : trimLeft u.line = '#' :: x :: (r ++ (u.gap ++ (literalOf u.minus u.digits ++ u.rest))) := by
      simp only [line, List.append_assoc, List.cons_append]
      rw [trimLeft, dropWhile_append_stop u.blank not_blank, hw]
      rfl
    rw [IdCommand.read?, trimmed]
    simp [start]

end Usage

/-- Inside a block every usage of a command of the table is read as the token that it is meant to hold, except that
commands whose word begins with a digit are never recognised. -/
theorem idToken?_usage {c : Command} (hc : c ∈ Command.table) (u : Usage c) :
    idToken? true u.line = .ok (if c.startsWithDigit then none else some u.token) := by
  cases digit : c.startsWithDigit with
  | true => rw [idToken?, u.read?_line_eq_none hc digit, if_pos rfl]
  | false =>
    have command : command? true u.word = some c := by
      rw [command?, u.spelled, Command.find?_word hc]
      rfl
    rw [if_neg Bool.false_ne_true]
    exact idToken?_eq_some_iff.2 ⟨u.parts, _, u.read?_line hc digit, command, read_literalOf u.digit u.few u.minus, rfl⟩

/-- The words of the table that begin with a digit. -/
example : (Command.table.filter Command.startsWithDigit).map (fun c => String.ofList c.word) =
    ["1com", "2com", "3com", "4com", "5com", "1unit", "1d3units", "1d6units", "2d6units", "3d6units", "4d6units"] := by
  decide +kernel

/-- A usage with blanks of several kinds, capital letters and a negative literal in full-width digits. -/
def loudDamage : Usage ⟨"damage".toList, .monster, .reference, false, true⟩ where
  lead := "\u3000\t".toList
  word := "DaMaGE".toList
  gap := " \t ".toList
  minus := true
  digits := "１002".toList
  rest := "; -- montag".toList
  blank := List.all_eq_true.1 (by decide)
  spelled := by decide
  gap_ne_nil := by decide
  gap_chars := by simp
  digits_ne_nil := by decide
  digit := List.all_eq_true.1 (by decide)
  few := by decide
  ends := by
    rintro _ ⟨⟩
    decide +kernel

/-- The damage is read as the montag -1002. -/
theorem idToken?_loudDamage :
    ⟨"damage".toList, .monster, .reference, false, true⟩ ∈ Command.table ∧ (idToken? true loudDamage.line).map
      (fun t => t.map IdToken.number) = .ok (some (-1002)) := by
  have mem : ⟨"damage".toList, .monster, .reference, false, true⟩ ∈ Command.table := by decide +kernel
  refine ⟨mem, ?_⟩
  rw [idToken?_usage mem loudDamage]
  decide +kernel

/-- The plainest usage of a command for events whose word begins with a digit. -/
def firstCommander : Usage ⟨"1com".toList, .monster, .reference, false, false⟩ where
  lead := []
  word := "1com".toList
  gap := [' ']
  minus := false
  digits := "3500".toList
  rest := []
  blank := List.all_eq_true.1 (by decide)
  spelled := by decide
  gap_ne_nil := by decide
  gap_chars := by simp
  digits_ne_nil := by decide
  digit := List.all_eq_true.1 (by decide)
  few := by decide
  ends := by rintro _ ⟨⟩

/-- Not every command of the table is recognised. -/
theorem idToken?_usage_ne :
    ¬ ∀ c ∈ Command.table, ∀ u : Usage c, idToken? true u.line = .ok (some u.token) := by
  intro recognised
  have missed : idToken? true firstCommander.line = .ok none := by decide +kernel
  have found := recognised _ (by decide +kernel) firstCommander
  rw [missed] at found
  cases found

end Line

end ModWeave
