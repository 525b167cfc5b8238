/-!
# Binary floating-point numbers

A binary64 value is kept exactly, as a whole number times a power of two with a sign, or as an infinity or no
number.  `nearest` rounds a quotient of two naturals to the nearest such value, a tie to the even one.
-/

namespace ModWeave.Decimal

/-- A binary64 value. -/
inductive Binary
  /-- The number `mantissa * 2 ^ exponent` with a sign. -/
  | finite (negative : Bool) (mantissa : Nat) (exponent : Int)
  | infinite (negative : Bool)
  | notANumber
deriving DecidableEq, Repr

namespace Binary

/-- The least exponent of a binary64 value. -/
def leastExponent : Int := -1074

/-- The greatest exponent of a binary64 value. -/
def greatestExponent : Int := 971

/-- The least number that is too large for a mantissa. -/
def mantissaEnd : Nat := Nat.pow 2 53

/-- The rounded quotient of two naturals; a tie goes to the even one. -/
def roundDiv (num den : Nat) : Nat :=
  let quotient := num / den
  let twice := 2 * (num % den)
  if twice < den || (twice = den && quotient % 2 = 0) then quotient else quotient + 1

/-- The quotient `num / (den * 2 ^ e)` in rounded form. -/
def scaledQuotient (num den : Nat) (e : Int) : Nat :=
  if e < 0 then roundDiv (num * Nat.pow 2 e.natAbs) den else roundDiv num (den * Nat.pow 2 e.natAbs)

/-- Whether `num / (den * 2 ^ e)` is too large for a mantissa. -/
def isTooLarge (num den : Nat) (e : Int) : Bool :=
  if e < 0 then den * mantissaEnd ≤ num * Nat.pow 2 e.natAbs else den * Nat.pow 2 e.natAbs * mantissaEnd ≤ num

/-- The exponent for a quotient of two positive naturals: the mantissa then has 53 bits, or fewer at the least
exponent. -/
def exponentFor (num den : Nat) : Int :=
  -- the guess is the exponent wanted or one less
  let guess : Int := (num.log2 : Int) - den.log2 - 53
  let e := if isTooLarge num den guess then guess + 1 else guess
  max e leastExponent

/-- The binary64 value nearest to a quotient with a positive denominator. -/
def nearest (negative : Bool) (num den : Nat) : Binary :=
  if num = 0 then finite negative 0 leastExponent
  else
    let e := exponentFor num den
    let m := scaledQuotient num den e
    -- rounding up can bring a mantissa of one bit more
    let (m, e) := if m = mantissaEnd then (mantissaEnd / 2, e + 1) else (m, e)
    if greatestExponent < e then infinite negative else finite negative m e

/-- The binary64 value nearest to `digits * 10 ^ scale`. -/
def ofDecimal (negative : Bool) (digits : Nat) (scale : Int) : Binary :=
  let size := (Nat.toDigits 10 digits).length + scale
  -- beyond these sizes a value is zero or infinite, whatever its digits are
  if digits = 0 ∨ size < -400 then finite negative 0 leastExponent
  else if 400 < size then infinite negative
  else if scale < 0 then nearest negative digits (Nat.pow 10 scale.natAbs)
  else nearest negative (digits * Nat.pow 10 scale.natAbs) 1

/-- The binary64 value nearest to an integer. -/
def ofInt (n : Int) : Binary := nearest (n < 0) n.natAbs 1

/-- The magnitude of a finite value as a quotient. -/
def quotient (mantissa : Nat) (exponent : Int) : Nat × Nat :=
  if exponent < 0 then (mantissa, Nat.pow 2 exponent.natAbs) else (mantissa * Nat.pow 2 exponent.natAbs, 1)

/-- The whole part of a finite value, toward zero. -/
def truncate? : Binary → Option Int
  | finite negative m e =>
    let (num, den) := quotient m e
    some (if negative then -(num / den : Nat) else (num / den : Nat))
  | _ => none

/-- The value with the other sign. -/
def negate : Binary → Binary
  | finite negative m e => finite (!negative) m e
  | infinite negative => infinite (!negative)
  | notANumber => notANumber

/-- Whether a value is zero of either sign. -/
def isZero : Binary → Bool
  | finite _ m _ => m = 0
  | _ => false

/-- Whether a value has a minus sign. -/
def isNegative : Binary → Bool
  | finite negative _ _ => negative
  | infinite negative => negative
  | notANumber => false

/-- The product of two values in rounded form. -/
def times : Binary → Binary → Binary
  | finite n₁ m₁ e₁, finite n₂ m₂ e₂ =>
    let (a, b) := quotient m₁ e₁
    let (c, d) := quotient m₂ e₂
    nearest (n₁ != n₂) (a * c) (b * d)
  | notANumber, _ => notANumber
  | _, notANumber => notANumber
  | x, y => if x.isZero || y.isZero then notANumber else infinite (x.isNegative != y.isNegative)

end Binary

end ModWeave.Decimal
