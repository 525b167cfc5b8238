import ModWeave.Decimal.Binary
import ModWeave.Decimal.Free
import ModWeave.Toml.Fault

/-!
# Dates and times of a settings file

A moment is a date, a time of day, or a date and a time.  Its numbers stand at fixed places: the year takes the
first four characters, and the other numbers two characters each, with one character between them that is not
looked at.  What follows the seconds of a date and time is a fraction behind a point and an offset from the
standard time; if one of them cannot be read, neither counts.
-/

namespace ModWeave.Toml

open Decimal (Binary)

/-- A calendar date. -/
structure Date where
  year : Nat
  month : Nat
  day : Nat
deriving DecidableEq, Repr

/-- A time of day. -/
structure TimeOfDay where
  hour : Nat
  minute : Nat
  second : Nat
  micros : Nat
deriving DecidableEq, Repr

/-- A date, a time of day, or both with an offset in minutes. -/
inductive Moment
  | date (d : Date)
  | time (t : TimeOfDay)
  | dateTime (d : Date) (t : TimeOfDay) (offset : Option Int)
deriving DecidableEq, Repr

/-- A number with zeros in front up to a width. -/
def padded (width n : Nat) : String :=
  let digits := Nat.toDigits 10 n
  String.ofList (List.replicate (width - digits.length) '0' ++ digits)

/-- Numbers with a comma and a space between them. -/
def numberList (ns : List Nat) : String := ", ".intercalate (ns.map toString)

/-- A whole number up to a bound. -/
def upTo? (bound : Nat) (n : Int) : Option Nat := if 0 ≤ n ∧ n ≤ bound then some n.toNat else none

/-- The number at some places of a text. -/
def numberAt? (s : List Char) (first last : Nat) : Option Int :=
  (Decimal.readFree ((s.take last).drop first)).toOption

/-! ### Dates -/

namespace Date

/-- The number of days of a month. -/
def daysIn (year month : Nat) : Nat :=
  if month = 2 then if year % 4 = 0 ∧ (year % 100 ≠ 0 ∨ year % 400 = 0) then 29 else 28
  else if month = 4 ∨ month = 6 ∨ month = 9 ∨ month = 11 then 30
  else 31

/-- Reads the date at the beginning of a text. -/
def read? (s : List Char) : Option Date := do
  let year ← upTo? 9999 (← numberAt? s 0 4)
  let month ← upTo? 12 (← numberAt? s 5 7)
  let day ← upTo? (daysIn year month) (← numberAt? s 8 10)
  if 1 ≤ year ∧ 1 ≤ month ∧ 1 ≤ day then some ⟨year, month, day⟩ else none

/-- The printed form of a date. -/
def text (d : Date) : String := s!"{padded 4 d.year}-{padded 2 d.month}-{padded 2 d.day}"

/-- The parts that the form inside a list shows. -/
def parts (d : Date) : List Nat := [d.year, d.month, d.day]

end Date

/-! ### Times of day -/

namespace TimeOfDay

/-- A time of day from its numbers. -/
def ofNumbers? (hour minute second micros : Int) : Option TimeOfDay := do
  return ⟨← upTo? 23 hour, ← upTo? 59 minute, ← upTo? 59 second, ← upTo? 999999 micros⟩

/-- Whether a text begins with a time: pairs of ASCII digits with colons between them. -/
def begins : List Char → Bool
  | a :: b :: ':' :: c :: d :: ':' :: e :: f :: _ => [a, b, c, d, e, f].all Char.isDigit
  | _ => false

/-- The parts of a second behind a time: three to six digits behind a point count microseconds. -/
def microsAfter : List Char → Nat
  | '.' :: s =>
    let digits := (s.take 6).takeWhile Char.isDigit
    if 3 ≤ digits.length then Text.digitsValue digits else 0
  | _ => 0

/-- Reads the time at the beginning of a text that begins with one; what follows it is not looked at. -/
def read? (s : List Char) : Option TimeOfDay := do
  ofNumbers? (← numberAt? s 0 2) (← numberAt? s 3 5) (← numberAt? s 6 8) (microsAfter (s.drop 8))

/-- The printed form of a time; parts of a second are shown if there are any. -/
def text (t : TimeOfDay) : String :=
  let base := s!"{padded 2 t.hour}:{padded 2 t.minute}:{padded 2 t.second}"
  if t.micros = 0 then base else s!"{base}.{padded 6 t.micros}"

/-- The parts that the form inside a list shows. -/
def parts (t : TimeOfDay) : List Nat :=
  [t.hour, t.minute] ++ (if t.second = 0 ∧ t.micros = 0 then [] else [t.second]) ++
    (if t.micros = 0 then [] else [t.micros])

end TimeOfDay

/-! ### Dates with times -/

/-- The offset in minutes that a text gives: a sign, hours and minutes, or the letter `Z`. -/
def offset? (s : List Char) : Option Int :=
  if s = ['Z'] then some 0
  else do
    let minutes := 60 * (← numberAt? s 1 3) + (← numberAt? s 4 6)
    return if s.head? = some '-' then -minutes else minutes

/-- The microseconds of a fraction; more than six digits are cut off after a floating-point product. -/
def microsOf? (fraction : List Char) : Except Fault (Option Int) :=
  match Decimal.readFree fraction with
  | .error _ => .ok none
  | .ok n =>
    if fraction.length ≤ 6 then .ok (some (n * Nat.pow 10 (6 - fraction.length)))
    else
      match Binary.ofInt n with
      | .infinite _ => .error .tooLarge
      | x => .ok (x.times (Binary.ofDecimal false 1 (6 - fraction.length))).truncate?

/-- What follows the point behind the seconds: the digits of the fraction, and the text of the offset. -/
def splitFraction (s : List Char) : List Char × Option (List Char) :=
  if s.getLast? = some 'Z' ∨ s.getLast? = some 'z' then (s.dropLast, some ['Z'])
  else
    -- a plus sign anywhere counts before a minus sign
    let sign := if '+' ∈ s then '+' else '-'
    if sign ∈ s then (s.takeWhile (· ≠ sign), some (s.dropWhile (· ≠ sign))) else (s, none)

/-- The microseconds and the offset that follow the seconds. -/
def afterSeconds : List Char → Except Fault (Int × Option Int)
  | [] => .ok (0, none)
  | '.' :: s =>
    let (fraction, offset) := splitFraction s
    match offset, offset.bind offset? with
    | some _, none => .ok (0, none)
    | _, minutes => (microsOf? fraction).map fun micros => (micros.map (·, minutes)).getD (0, none)
  | s => .ok (0, offset? s)

namespace Moment

/-- Reads a date, or a date and a time; a minus sign behind the first character marks a text as a date. -/
def readDate? (s : List Char) : Except Fault (Option Moment) := do
  let (micros, offset) ← afterSeconds (s.drop 19)
  if '-' ∉ s.drop 1 then return none
  if s.length = 10 then return (Date.read? s).map .date
  return do
    let time ← TimeOfDay.ofNumbers? (← numberAt? s 11 13) (← numberAt? s 14 16) (← numberAt? s 17 19) micros
    return .dateTime (← Date.read? s) time offset

/-- An offset as it is printed. -/
def offsetText (minutes : Int) : String :=
  let sign := if minutes < 0 then "-" else "+"
  s!"{sign}{padded 2 (minutes.natAbs / 60)}:{padded 2 (minutes.natAbs % 60)}"

/-- The printed form of a moment. -/
def print : Moment → Except Fault String
  | date d => .ok d.text
  | time t => .ok t.text
  | dateTime d t none => .ok s!"{d.text} {t.text}"
  | dateTime d t (some minutes) =>
    if minutes.natAbs < 24 * 60 then .ok s!"{d.text} {t.text}{offsetText minutes}" else .error .farOffset

/-- The form of a moment inside a list or a table. -/
def inner : Moment → String
  | date d => s!"datetime.date({numberList d.parts})"
  | time t => s!"datetime.time({numberList t.parts})"
  | dateTime d t _ => s!"datetime.datetime({numberList (d.parts ++ t.parts)})"

end Moment

end ModWeave.Toml
