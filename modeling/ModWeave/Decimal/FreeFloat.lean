import ModWeave.Decimal.Binary
import ModWeave.Decimal.Free

/-!
# Floating-point numbers in free text

A floating-point number in free text may stand between blanks, carry a sign of either kind and have single
underscores between its digits, which may be of any script.  It has digits on at least one side of its point, and
an exponent behind the letter `e`; the words for infinity and for no number count in any case.
-/

namespace ModWeave.Decimal

open Text

/-- A text without blanks around it. -/
def withoutMargins (s : List Char) : List Char :=
  ((s.dropWhile isMargin).reverse.dropWhile isMargin).reverse

/-- Whether every underscore stands between two digits; `afterDigit` tells whether a digit stands in front. -/
def underscoresFit (afterDigit : Bool) : List Char → Bool
  | [] => true
  | ['_'] => false
  | '_' :: d :: s => afterDigit && isDigit d && underscoresFit false (d :: s)
  | c :: s => underscoresFit (isDigit c) s

/-- The exponent at the end of a number; there need not be one. -/
def exponent? : List Char → Option Int
  | [] => some 0
  | c :: s =>
    let (negative, digits) := freeSign s
    if (c = 'e' || c = 'E') && digits ≠ [] && digits.all isDigit then
      some (if negative then -(digitsValue digits : Int) else digitsValue digits)
    else none

/-- Reads a number without a sign and without underscores. -/
def readMagnitude? (negative : Bool) (s : List Char) : Option Binary :=
  let word := s.map Char.toLower
  if word = "inf".toList ∨ word = "infinity".toList then some (.infinite negative)
  else if word = "nan".toList then some .notANumber
  else
    let whole := s.takeWhile isDigit
    let (fraction, rest) := match s.dropWhile isDigit with
      | '.' :: s => (s.takeWhile isDigit, s.dropWhile isDigit)
      | s => ([], s)
    if whole = [] ∧ fraction = [] then none
    else
      (exponent? rest).map fun e => Binary.ofDecimal negative (digitsValue (whole ++ fraction)) (e - fraction.length)

/-- Reads a floating-point number from free text. -/
def readFreeFloat? (text : List Char) : Option Binary :=
  let s := withoutMargins text
  if underscoresFit false s then
    let (negative, s) := freeSign (s.filter (· ≠ '_'))
    readMagnitude? negative s
  else none

end ModWeave.Decimal
