import ModWeave.Text.Blank
import ModWeave.Text.Digit
import ModWeave.Text.Lines
import ModWeave.Text.Word

/-!
# The shape of a line

What a line says is decided by its beginning.  A keyword line starts, after blanks, with a number sign and a
keyword in any case; a numbered command has an ASCII command word, spaces or tabulators, and an integer literal
that no word character and no point continues.  `IdCommand.read?` cuts such a line into its parts, which give
the line again when they are put together (`IdCommand.line_eq_of_read?`).
-/

namespace ModWeave.Line

open Text

/-- Whether a line is a comment. -/
def isComment (l : Line) : Bool := ['-', '-'].isPrefixOf (trimLeft l)

/-- Whether a character stands for a small letter when case is ignored: the long s counts as an s, and the
dotless and the dotted capital i as an i. -/
def standsFor (letter c : Char) : Bool :=
  c.toLower = letter || (letter = 's' && c = 'ſ') || (letter = 'i' && (c = 'ı' || c = 'İ'))

/-- What follows a word in small letters at the beginning of a text, in any case. -/
def dropWord? : List Char → Line → Option Line
  | [], l => some l
  | _ :: _, [] => none
  | w :: word, c :: l => if standsFor w c then dropWord? word l else none

/-- What follows the blanks, the number sign and the given keyword at the beginning of a line. -/
def afterKeyword? (word : String) (l : Line) : Option Line :=
  match trimLeft l with
  | '#' :: r => dropWord? word.toList r
  | _ => none

/-- Whether a text does not go on with a word character. -/
def atWordEnd : Line → Bool
  | [] => true
  | c :: _ => !isWord c

/-- Whether a line starts with the given keyword. -/
def hasKeyword (word : String) (l : Line) : Bool := (afterKeyword? word l).any atWordEnd

/-- Whether a line holds an odd number of quotation marks. -/
def oddQuotes (l : Line) : Bool := l.count '"' % 2 = 1

/-- Whether a line starts a description whose closing quotation mark is on a later line. -/
def isDescriptionStart (l : Line) : Bool := hasKeyword "description" l && oddQuotes l

/-- Whether a line is a whole statement about the mod itself. -/
def isMetadata (l : Line) : Bool :=
  hasKeyword "modname" l || hasKeyword "icon" l || hasKeyword "version" l || hasKeyword "domversion" l ||
    (hasKeyword "description" l && !isDescriptionStart l)

/-- Whether a line opens a spell block. -/
def isBlockStart (l : Line) : Bool := hasKeyword "newspell" l || hasKeyword "selectspell" l

/-- Whether a line closes a block. -/
def isBlockEnd (l : Line) : Bool := hasKeyword "end" l

/-- A number after a command word: the gap in front of it, its literal and what follows. -/
structure Argument where
  gap : Line
  literal : Line
  rest : Line

namespace Argument

/-- Whether a character may stand between a command word and its number. -/
def isGap (c : Char) : Bool := c = ' ' || c = '\t'

/-- Whether a literal may end in front of a text: neither a word character nor a point goes on. -/
def endsBefore : Line → Bool
  | [] => true
  | c :: _ => !isWord c && c != '.'

/-- The minus sign at the beginning of a text, if there is one. -/
def sign : Line → Line
  | '-' :: _ => ['-']
  | _ => []

/-- Reads a gap and a literal. -/
def read? (l : Line) : Option Argument :=
  let gap := l.takeWhile isGap
  let number := l.dropWhile isGap
  let minus := sign number
  let digits := (number.drop minus.length).takeWhile isDigit
  let rest := (number.drop minus.length).dropWhile isDigit
  if gap ≠ [] ∧ digits ≠ [] ∧ endsBefore rest then some ⟨gap, minus ++ digits, rest⟩ else none

private theorem sign_append_drop (l : Line) : sign l ++ l.drop (sign l).length = l := by
  unfold sign
  split <;> simp

/-- The parts of an argument make up the text that was read. -/
theorem line_eq_of_read? {l : Line} {a : Argument} (h : read? l = some a) : l = a.gap ++ a.literal ++ a.rest := by
  simp only [read?] at h
  split at h
  · cases h
    simp only [List.append_assoc, List.takeWhile_append_dropWhile, sign_append_drop]
  · cases h

end Argument

/-- The parts of a line that gives a number to an ASCII command word. -/
structure IdCommand where
  /-- The blanks in front of the number sign. -/
  lead : Line
  /-- The command word. -/
  word : Line
  argument : Argument

namespace IdCommand

/-- Whether a character may begin a command word. -/
def isWordStart (c : Char) : Bool := c.isAlpha || c = '_'

/-- Whether a character may go on a command word. -/
def isWordRest (c : Char) : Bool := c.isAlphanum || c = '_'

/-- Reads a number sign, a command word and a number after blanks. -/
def read? (l : Line) : Option IdCommand :=
  match trimLeft l with
  | '#' :: c :: r =>
    if isWordStart c then
      (Argument.read? (r.dropWhile isWordRest)).map fun a =>
        ⟨l.takeWhile isBlank, c :: r.takeWhile isWordRest, a⟩
    else none
  | _ => none

/-- The number of characters in front of the literal. -/
def start (c : IdCommand) : Nat := c.lead.length + 1 + c.word.length + c.argument.gap.length

/-- The number of characters up to the end of the literal. -/
def stop (c : IdCommand) : Nat := c.start + c.argument.literal.length

/-- The parts of a command make up the line. -/
theorem line_eq_of_read? {l : Line} {c : IdCommand} (h : read? l = some c) :
    l = c.lead ++ '#' :: c.word ++ c.argument.gap ++ c.argument.literal ++ c.argument.rest := by
  unfold read? at h
  split at h
  · rename_i d r hl
    split at h
    · obtain ⟨a, ha, rfl⟩ := Option.map_eq_some_iff.1 h
      have hr := Argument.line_eq_of_read? ha
      have htrim : l.dropWhile isBlank = '#' :: d :: r := hl
      calc l = l.takeWhile isBlank ++ l.dropWhile isBlank := (List.takeWhile_append_dropWhile ..).symm
        _ = l.takeWhile isBlank ++ '#' :: d :: (r.takeWhile isWordRest ++ r.dropWhile isWordRest) := by
          rw [htrim, List.takeWhile_append_dropWhile]
        _ = _ := by rw [hr]; simp
    · cases h
  · cases h

end IdCommand

end ModWeave.Line
