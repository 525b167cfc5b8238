import ModWeave.Decimal.Literal
import ModWeave.Text.Blank
import ModWeave.Text.Quoted

/-!
# Integers in free text

A number that a user writes as text may stand between blanks, carry a sign of either kind and have single
underscores between its digits, which may be of any script.  Anything else is refused with the text in quotes,
and a run of too many digits is refused for its length.
-/

namespace ModWeave.Decimal

open Text

/-- Why a text is not read as a number. -/
inductive FreeFault
  | malformed (text : List Char)
  | tooLong (cause : TooLong)
deriving DecidableEq, Repr

/-- The words for a fault; a long text is cut short. -/
def FreeFault.message : FreeFault → String
  | malformed text => "invalid literal for int() with base 10: " ++ String.ofList ((quote text).take 200)
  | tooLong cause => cause.message

/-- Whether a character may stand around a number; the information separators may not. -/
def isMargin (c : Char) : Bool := isBlank c && !(0x1C ≤ c.toNat && c.toNat ≤ 0x1F)

/-- The sign in front of a text and what follows it. -/
def freeSign : List Char → Bool × List Char
  | '-' :: s => (true, s)
  | '+' :: s => (false, s)
  | s => (false, s)

/-- The digits and underscores at the beginning of a text. -/
def digitRun (s : List Char) : List Char := s.takeWhile fun c => isDigit c || c = '_'

/-- Whether every underscore of a run stands between two digits; `afterDigit` tells whether a digit stands in front
of the run. -/
def wellSeparated (afterDigit : Bool) : List Char → Bool
  | [] => afterDigit
  | c :: s => if c = '_' then afterDigit && wellSeparated false s else wellSeparated true s

/-- Reads a number from free text. -/
def readFree (text : List Char) : Except FreeFault Int :=
  let (negative, s) := freeSign (text.dropWhile isMargin)
  let run := digitRun s
  let rest := s.drop run.length
  let digits := run.filter (· ≠ '_')
  if !wellSeparated false run then .error (.malformed text)
  else
    match readDigits digits with
    | .error e => .error (.tooLong e)
    | .ok n =>
      if rest.all isMargin then .ok (if negative then -(n : Int) else n) else .error (.malformed text)

end ModWeave.Decimal
