import JsxLowering.Decimal.Binary64

/-!
# Shortest decimal text

The fewest decimal digits that read back as a given binary64 number, and of these the ones nearest to it. The digits
come with the place of the decimal point, so that every notation can be laid out from them.
-/

namespace JsxLowering.Decimal

/-- Decimal digits `d₁d₂…` with the place of the point: the number is `0.d₁d₂… * 10 ^ point`. -/
structure Digits where
  digits : List Char
  point : Int
  deriving DecidableEq, Repr

/-- The ratios between which a decimal reads back as `mantissa * 2 ^ q`, all over the denominator that comes last:
lower end, number, upper end. -/
def readingInterval (mantissa : Nat) (q : Int) : Nat × Nat × Nat × Nat :=
  let below := if mantissa = Nat.pow 2 52 ∧ Binary64.leastExponent < q then 1 else 2
  let low := 4 * mantissa - below
  let high := 4 * mantissa + 2
  if 2 ≤ q then
    let unit := Nat.pow 2 (q - 2).toNat
    (low * unit, 4 * mantissa * unit, high * unit, 1)
  else (low, 4 * mantissa, high, Nat.pow 2 (2 - q).toNat)

/-- The least `n` with `num < den * 10 ^ n`. -/
def integerPlaces (num den : Nat) : Nat :=
  if num / den = 0 then 0 else (Nat.toDigits 10 (num / den)).length

/-- The number of zeros between the point and the first digit of a ratio below one. -/
def leadingZeros : Nat → Nat → Nat → Nat
  | 0, _, _ => 0
  | fuel + 1, num, den => if num * 10 < den then leadingZeros fuel (num * 10) den + 1 else 0

/-- The place of the decimal point of a positive ratio. -/
def pointPlace (num den : Nat) : Int :=
  if num < den then -(leadingZeros 400 num den : Int) else integerPlaces num den

/-- A decimal with `count` digits that reads back as the number, if there is one: of the two neighbours of the number
on that grid the nearer, of two equally near ones the even. -/
def candidate? (mantissa : Nat) (q : Int) (point : Int) (count : Nat) : Option Nat :=
  let (low, value, high, den) := readingInterval mantissa q
  -- one grid step is `10 ^ (point - count)`; numerators are brought over `den * stepDen`
  let stepNum := if 0 ≤ point - count then Nat.pow 10 (point - count).toNat else 1
  let stepDen := if 0 ≤ point - count then 1 else Nat.pow 10 (count - point).toNat
  let unit := stepNum * den
  let inside (c : Nat) : Bool :=
    if mantissa % 2 = 0 then low * stepDen ≤ c * unit ∧ c * unit ≤ high * stepDen
    else low * stepDen < c * unit ∧ c * unit < high * stepDen
  let down := value * stepDen / unit
  let up := down + 1
  match inside down, inside up with
  | true, true =>
    let toDown := value * stepDen - down * unit
    let toUp := up * unit - value * stepDen
    if toDown < toUp ∨ (toDown = toUp ∧ down % 2 = 0) then some down else some up
  | true, false => some down
  | false, true => some up
  | false, false => none

/-- Drops the zeros at the end of a list of digits. -/
def dropTrailingZeros (digits : List Char) : List Char :=
  (digits.reverse.dropWhile (· = '0')).reverse

/-- Tries `count` digits, then one more, up to `fuel` times. -/
def shortestFrom (mantissa : Nat) (q : Int) (point : Int) : Nat → Nat → Digits
  | 0, _ => ⟨['0'], 1⟩
  | fuel + 1, count =>
    match candidate? mantissa q point count with
    | some c =>
      let digits := Nat.toDigits 10 c
      ⟨dropTrailingZeros digits, point + (digits.length - count)⟩
    | none => shortestFrom mantissa q point fuel (count + 1)

/-- The shortest digits of a positive finite number `mantissa * 2 ^ q`; zero has the single digit zero. -/
def shortest (mantissa : Nat) (q : Int) : Digits :=
  if mantissa = 0 then ⟨['0'], 1⟩
  else
    let (_, value, _, den) := readingInterval mantissa q
    shortestFrom mantissa q (pointPlace value den) 18 1

end JsxLowering.Decimal
