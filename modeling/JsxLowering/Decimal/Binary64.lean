/-!
# Binary floating point numbers

The non-negative numbers of the binary64 format as exact pairs of a mantissa and an exponent, and the rounding of a
ratio of natural numbers to the nearest of them. A tie goes to the even mantissa.
-/

namespace JsxLowering.Decimal

/-- A non-negative number of the binary64 format. -/
inductive Binary64 where
  /-- The number `mantissa * 2 ^ exponent`. -/
  | finite (mantissa : Nat) (exponent : Int)
  /-- Larger than every finite number. -/
  | infinity
  deriving DecidableEq, Repr

/-- The quotient rounded to the nearest integer, a half to the even neighbour. -/
def roundDiv (a b : Nat) : Nat :=
  let quotient := a / b
  let rest := a % b
  if b < 2 * rest ∨ (2 * rest = b ∧ quotient % 2 = 1) then quotient + 1 else quotient

namespace Binary64

/-- The least exponent of the format. -/
def leastExponent : Int := -1074

/-- The greatest exponent of the format. -/
def greatestExponent : Int := 971

/-- The number zero. -/
def zero : Binary64 := .finite 0 leastExponent

/-- The ratio `num / den` divided by `2 ^ q`, as numerator and denominator. -/
def scaled (num den : Nat) (q : Int) : Nat × Nat :=
  if 0 ≤ q then (num, den * Nat.pow 2 q.toNat) else (num * Nat.pow 2 (-q).toNat, den)

/-- Rounds `num / den` with a mantissa in units of `2 ^ q`. -/
def roundAt (num den : Nat) (q : Int) : Binary64 :=
  let (a, b) := scaled num den q
  let mantissa := roundDiv a b
  let (mantissa, q) := if mantissa = Nat.pow 2 53 then (Nat.pow 2 52, q + 1) else (mantissa, q)
  if greatestExponent < q then .infinity else .finite mantissa q

/-- The number nearest to `num / den`. -/
def ofRatio (num den : Nat) : Binary64 :=
  if num = 0 ∨ den = 0 then zero
  else
    let magnitude : Int := (num.log2 : Int) - den.log2
    let q := max (magnitude - 53) leastExponent
    let (a, b) := scaled num den q
    if Nat.pow 2 53 ≤ a / b then roundAt num den (q + 1) else roundAt num den q

/-- The decimal exponents beyond which a literal is zero or infinite whatever its digits. -/
def decimalBound : Nat := 400

/-- The number nearest to `digits * 10 ^ exponent`, for `digits` written with `count` decimal digits. -/
def ofDecimal (digits count : Nat) (exponent : Int) : Binary64 :=
  if digits = 0 then zero
  else if (decimalBound : Int) < exponent + count then .infinity
  else if exponent + count < -(decimalBound : Int) then zero
  else if 0 ≤ exponent then ofRatio (digits * Nat.pow 10 exponent.toNat) 1
  else ofRatio digits (Nat.pow 10 (-exponent).toNat)

/-- The number nearest to a natural number. -/
def ofNat (n : Nat) : Binary64 := ofRatio n 1

/-- The value as a ratio; infinity has none. -/
def ratio? : Binary64 → Option (Nat × Nat)
  | .finite mantissa q => some (if 0 ≤ q then (mantissa * Nat.pow 2 q.toNat, 1) else (mantissa, Nat.pow 2 (-q).toNat))
  | .infinity => none

/-- The value, where it is an integer. -/
def integer? (x : Binary64) : Option Nat :=
  x.ratio?.bind fun (a, b) => if a % b = 0 then some (a / b) else none

end Binary64

end JsxLowering.Decimal
