import ModWeave.Decimal.Literal

/-!
# Faults of a settings file

Most faults break a rule of the format and are all reported alike.  A few places of the format ask for more than
the text has, or for a value of another sort, and report this themselves.
-/

namespace ModWeave.Toml

/-- Why a settings file is refused. -/
inductive Fault
  /-- The text breaks a rule of the format. -/
  | malformed
  /-- A text is too short for the character that is looked for. -/
  | pastText
  /-- A list is too short for the item that is looked for. -/
  | pastList
  /-- A value is of a sort that has no parts of the kind that is looked for. -/
  | unsuitable
  /-- A table is to be appended to something that is no list. -/
  | noList
  /-- A fraction of a second has more digits than a floating-point number can hold. -/
  | tooLarge
  /-- A code point is far outside the range of code points. -/
  | noCodePoint
  /-- A text of several lines stands under an empty key. -/
  | unnamed
  /-- An integer has too many digits to be printed. -/
  | tooManyDigits
  /-- A moment is a day or more away from the standard time. -/
  | farOffset
deriving DecidableEq, Repr

/-- The words for a fault. -/
def Fault.message : Fault → String
  | malformed => "malformed settings"
  | pastText => "string index out of range"
  | pastList => "list index out of range"
  | unsuitable => "unsuitable value"
  | noList => "no list"
  | tooLarge => "int too large to convert to float"
  | noCodePoint => "Python int too large to convert to C int"
  | unnamed => "cannot access local variable 'value' where it is not associated with a value"
  | tooManyDigits => Decimal.unwritableMessage
  | farOffset => "offset must be a timedelta strictly between -timedelta(hours=24) and timedelta(hours=24)."

end ModWeave.Toml
