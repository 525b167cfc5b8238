import ModWeave.Text.Printable

/-!
# Quoted text

`quote` writes a text between quotation marks: single ones, or double ones if the text holds a single mark and
no double one.  A backslash and the mark itself get a backslash, the tabulator and the line ends get their
letter, and every other character that is not printable is written by its code point in two, four or eight
hexadecimal digits.
-/

namespace ModWeave.Text

/-- A number in lower-case hexadecimal with at least `width` digits. -/
def hex (width n : Nat) : List Char :=
  let digits := Nat.toDigits 16 n
  List.replicate (width - digits.length) '0' ++ digits

/-- A character inside quotation marks of the given kind. -/
def quoteChar (mark c : Char) : List Char :=
  if c = mark || c = '\\' then ['\\', c]
  else if c = '\n' then ['\\', 'n']
  else if c = '\r' then ['\\', 'r']
  else if c = '\t' then ['\\', 't']
  else if isPrintable c then [c]
  else if c.toNat < 0x100 then '\\' :: 'x' :: hex 2 c.toNat
  else if c.toNat < 0x10000 then '\\' :: 'u' :: hex 4 c.toNat
  else '\\' :: 'U' :: hex 8 c.toNat

/-- The mark that a text is quoted with. -/
def quoteMark (s : List Char) : Char := if '\'' ∈ s ∧ '"' ∉ s then '"' else '\''

/-- A text between quotation marks. -/
def quote (s : List Char) : List Char :=
  let mark := quoteMark s
  mark :: s.flatMap (quoteChar mark) ++ [mark]

end ModWeave.Text
