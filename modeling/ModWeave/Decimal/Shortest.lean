import ModWeave.Decimal.Binary

/-!
# Decimal text of binary numbers

`shortest` finds the decimal with the fewest digits that reads back as a given value; of two such decimals it
takes the nearer one, and of two equally near the even one.  `significant` rounds an integer to a number of
digits.  `layout` writes digits with a point or with an exponent.
-/

namespace ModWeave.Decimal

/-- A decimal `digits * 10 ^ scale`. -/
structure Scaled where
  digits : Nat
  scale : Int
deriving DecidableEq, Repr

namespace Scaled

/-- The same number without zeros at the end of its digits; `fuel` bounds their count. -/
def strip : Nat → Scaled → Scaled
  | 0, d => d
  | fuel + 1, d => if d.digits ≠ 0 ∧ d.digits % 10 = 0 then strip fuel ⟨d.digits / 10, d.scale + 1⟩ else d

/-- The exponent of the leading digit. -/
def leading (d : Scaled) : Int := (Nat.toDigits 10 d.digits).length - 1 + d.scale

end Scaled

/-- The quotient `num / den` divided by a power of ten, as a quotient. -/
def overPower (num den : Nat) (scale : Int) : Nat × Nat :=
  if scale < 0 then (num * Nat.pow 10 scale.natAbs, den) else (num, den * Nat.pow 10 scale.natAbs)

/-- The exponent of the leading decimal digit of a positive quotient, searched from a guess that is not above
it. -/
def leadingExponent (num den : Nat) : Int :=
  let guess : Int := ((Nat.toDigits 10 num).length : Int) - (Nat.toDigits 10 den).length - 1
  let reaches (e : Int) : Bool := let (n, d) := overPower num den e; d ≤ n
  if reaches (guess + 1) then guess + 1 else guess

/-- The decimal with digits in steps of `10 ^ scale` that reads back as the value and is nearest to it. -/
def onGrid? (x : Binary) (num den : Nat) (scale : Int) : Option Scaled :=
  let (n, d) := overPower num den scale
  let low := n / d
  let readsBack (k : Nat) : Bool := k ≠ 0 && Binary.ofDecimal false k scale = x
  let twice := 2 * (n % d)
  let lowFirst : Bool := twice < d || (twice = d && low % 2 = 0)
  let order := if lowFirst then [low, low + 1] else [low + 1, low]
  (order.find? readsBack).map fun k => ⟨k, scale⟩

/-- The decimal with the fewest digits that reads back as a positive value. -/
def shortest (mantissa : Nat) (exponent : Int) : Scaled :=
  let x := Binary.finite false mantissa exponent
  let (num, den) := Binary.quotient mantissa exponent
  let top := leadingExponent num den
  -- seventeen digits are always enough
  let found := (List.range 17).findSome? fun (n : Nat) => onGrid? x num den (top - n)
  (found.getD ⟨num / den, 0⟩).strip 20

/-- An integer's magnitude rounded to the given number of digits, a tie to the even digit. -/
def significant (count n : Nat) : Scaled :=
  let surplus := (Nat.toDigits 10 n).length - count
  Scaled.strip n.log2 ⟨Binary.roundDiv n (Nat.pow 10 surplus), surplus⟩

/-- An exponent with its sign and at least two digits. -/
def exponentText (e : Int) : List Char :=
  let digits := Nat.toDigits 10 e.natAbs
  (if e < 0 then '-' else '+') :: List.replicate (2 - digits.length) '0' ++ digits

/-- How a number is written. -/
structure NumberStyle where
  /-- Exponents of the leading digit from here on are written with a point. -/
  plainFrom : Int
  /-- Exponents of the leading digit below this are written with a point. -/
  plainBelow : Int
  /-- Whether a whole number gets a point and a zero. -/
  pointZero : Bool

/-- The text of a positive decimal without zeros at its end. -/
def layout (f : NumberStyle) (d : Scaled) : List Char :=
  let digits := Nat.toDigits 10 d.digits
  let e := d.leading
  if f.plainFrom ≤ e ∧ e < f.plainBelow then
    if 0 ≤ d.scale then digits ++ List.replicate d.scale.natAbs '0' ++ (if f.pointZero then ['.', '0'] else [])
    else if 0 ≤ e then digits.take (e.natAbs + 1) ++ '.' :: digits.drop (e.natAbs + 1)
    else '0' :: '.' :: List.replicate (e.natAbs - 1) '0' ++ digits
  else
    let fraction := digits.drop 1
    digits.take 1 ++ (if fraction = [] then [] else '.' :: fraction) ++ 'e' :: exponentText e

end ModWeave.Decimal
