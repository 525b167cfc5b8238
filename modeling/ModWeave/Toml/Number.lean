import ModWeave.Decimal.FreeFloat
import ModWeave.Toml.Value

/-!
# Numbers of a settings file

A number with a point or an exponent is floating, and every other number is whole: decimal, or hexadecimal, octal
or binary behind a mark.  Underscores are taken out before a number is read; `isWellFormed` tells, before that,
whether they and the leading zeros stand where they may.  A minus sign leaves a floating-point zero as it is.
-/

namespace ModWeave.Toml

open Decimal (Binary)
open Text (digitValue?)

/-- Whether two characters stand side by side in a text. -/
def hasPair (a b : Char) : List Char → Bool
  | c :: d :: s => (c = a && d = b) || hasPair a b (d :: s)
  | _ => false

/-- Whether a text begins with a zero in front of something else than the given characters. -/
def leadsWithZero (allowed : List Char) : List Char → Bool
  | '0' :: c :: _ => c ∉ allowed
  | _ => false

/-- Whether the underscores and the leading zeros of a number stand where they may. -/
def isWellFormed (text : List Char) : Bool :=
  let s := Text.trim text
  if s.head? = some '_' || s.getLast? = some '_' || hasPair '_' '.' s || hasPair '.' '_' s then false
  else if s = [] then false
  else if s.length = 1 then true
  else
    match s with
    | '+' :: n => !leadsWithZero ['.'] n && !hasPair '_' '_' n
    | '-' :: n => !leadsWithZero ['.'] n && !hasPair '_' '_' n
    | n => !leadsWithZero ['.', 'o', 'b', 'x'] n && !hasPair '_' '_' n

/-- The value of a digit in a base of at most sixteen; decimal digits may be of any script. -/
def digitIn (base : Nat) (c : Char) : Option Nat :=
  let v :=
    if 'a' ≤ c ∧ c ≤ 'f' then some (c.toNat - 0x57)
    else if 'A' ≤ c ∧ c ≤ 'F' then some (c.toNat - 0x37)
    else digitValue? c
  v.filter (· < base)

/-- The number that digits in a base write. -/
def valueIn (base : Nat) (s : List Char) : Nat := s.foldl (fun n c => base * n + (digitIn base c).getD 0) 0

/-- The base of a number and its digits: a zero and a letter mark another base than ten. -/
def splitBase (s : List Char) : Nat × List Char :=
  match s with
  | z :: mark :: rest =>
    if digitValue? z ≠ some 0 then (10, s)
    else if mark = 'x' ∨ mark = 'X' then (16, rest)
    else if mark = 'o' ∨ mark = 'O' then (8, rest)
    else if mark = 'b' ∨ mark = 'B' then (2, rest)
    else (10, s)
  | _ => (10, s)

/-- Reads a whole number; a decimal one begins with a zero only if it is zero. -/
def whole? (s : List Char) : Option Int :=
  let (negative, s) := Decimal.freeSign (s.dropWhile Decimal.isMargin)
  let (base, s) := splitBase s
  let digits := s.takeWhile fun c => (digitIn base c).isSome
  if digits = [] ∨ base = 10 ∧ Decimal.maxDigits < digits.length then none
  else if !(s.drop digits.length).all Decimal.isMargin then none
  else
    let n := valueIn base digits
    if base = 10 ∧ digits.head?.bind digitValue? = some 0 ∧ n ≠ 0 then none
    else some (if negative then -(n : Int) else n)

/-- The value with a minus sign in front; zero keeps its sign. -/
def withSign (negative : Bool) (x : Binary) : Binary :=
  match x with
  | .finite false 0 e => .finite false 0 e
  | x => if negative then x.negate else x

/-- Whether a number is floating. -/
def isFloating (s : List Char) : Bool := '.' ∈ s || ('x' ∉ s && ('e' ∈ s || 'E' ∈ s))

/-- Whether a number with a point has something behind the first one. -/
def hasFraction (s : List Char) : Bool := (s.dropWhile (· ≠ '.')).length ≠ 1

/-- Reads a number with or without a sign. -/
def number? (s : List Char) : Option Value :=
  let (negative, s) := Decimal.freeSign s
  let s := s.filter (· ≠ '_')
  let word := s.map Char.toLower
  if isFloating s then
    if hasFraction s && (s.head?.any Char.isDigit) then
      (Decimal.readFreeFloat? s).map fun x => .float (withSign negative x)
    else none
  else if word = "inf".toList ∨ word = "nan".toList then
    (Decimal.readFreeFloat? s).map fun x => .float (withSign negative x)
  else (whole? s).map fun n => .integer (if negative then -n else n)

end ModWeave.Toml
