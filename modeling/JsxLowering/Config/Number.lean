import JsxLowering.Config.Cursor

/-!
# Numbers in a configuration

No field of a configuration is a number; one is read only to say what was found. Integers are kept while they
fit into 64 bits; the others are computed from their leading digits by one rounded product or quotient with a
power of ten.
-/

namespace JsxLowering.Config

open Decimal (Binary64)

/-- The greatest integer that is kept. -/
def greatestInteger : Nat := Nat.pow 2 64 - 1

/-- The greatest exponent that is kept. -/
def greatestExponent : Nat := Nat.pow 2 31 - 1

/-- Appends digits to a number while it stays within a limit; the digits that did not fit come second. -/
def appendDigits (limit : Nat) : Nat → List Char → Nat × List Char
  | n, [] => (n, [])
  | n, c :: rest =>
    let m := n * 10 + (c.toNat - 48)
    if limit < m then (n, c :: rest) else appendDigits limit m rest

/-- The digits at the cursor, which are passed. -/
def passDigits : Reading (List Char) := do
  let digits := (← get).rest.takeWhile Char.isDigit
  modify fun cursor => cursor.skip digits.length
  return digits

/-- A number times a ratio, rounded. -/
def scale (x : Binary64) (num den : Nat) : Binary64 :=
  match x.ratio? with
  | some (a, b) => .ofRatio (a * num) (b * den)
  | none => x

/-- The greatest power of ten that a number is scaled by at once. -/
def greatestPower : Nat := 308

/-- The value of a power of ten, rounded. -/
def powerOfTen (n : Nat) : Nat × Nat := ((Binary64.ofNat (Nat.pow 10 n)).ratio?).getD (1, 1)

/-- Divides by a power of ten, in steps if it is a great one. -/
def divideByPower : Nat → Binary64 → Nat → Binary64
  | 0, x, _ => x
  | fuel + 1, x, n =>
    let (num, den) := powerOfTen (min n greatestPower)
    let y := scale x den num
    if n ≤ greatestPower then y else divideByPower fuel y (n - greatestPower)

/-- A number from its leading digits and a power of ten; a number that is too great has no value. -/
def floatOfParts? (digits : Nat) (exponent : Int) : Option Binary64 :=
  let x := Binary64.ofNat digits
  if exponent < 0 then some (divideByPower 4 x exponent.natAbs)
  else if digits = 0 then some x
  else if (greatestPower : Int) < exponent then none
  else
    let (num, den) := powerOfTen exponent.natAbs
    match scale x num den with
    | .infinity => none
    | y => some y

/-- The number with the given parts. -/
def floatOfParts (negative : Bool) (digits : Nat) (exponent : Int) : Reading Found := do
  match floatOfParts? digits exponent with
  | some value => return .float negative value
  | none => refuse .numberOutOfRange

/-- The sign of an exponent, if it is written; it is passed. -/
def exponentSign : Reading Bool := do
  match ← peek with
  | some '+' =>
    pass
    return false
  | some '-' =>
    pass
    return true
  | _ => return false

/-- The exponent of a number, whose mark is the next character. -/
def readExponent (negative : Bool) (digits : Nat) (exponent : Int) : Reading Found := do
  pass
  let down ← exponentSign
  match ← peek with
  | none => refuse .endInValue
  | some c =>
    unless c.isDigit do refuseNext .invalidNumber
    let cursor ← get
    let written ← passDigits
    let (value, excess) := appendDigits greatestExponent 0 written
    if excess.isEmpty then floatOfParts negative digits (if down then exponent - value else exponent + value)
    else if digits = 0 || down then return .float negative .zero
    else refuseAt (cursor.offset + (written.length - excess.length) + 1) .numberOutOfRange

/-- An exponent if there is one, and then the number. -/
def exponentOrEnd (negative : Bool) (digits : Nat) (exponent : Int) : Reading Found := do
  match ← peek with
  | some 'e' => readExponent negative digits exponent
  | some 'E' => readExponent negative digits exponent
  | _ => floatOfParts negative digits exponent

/-- The digits after the point of a number, whose point is the next character. -/
def readFraction (negative : Bool) (digits : Nat) (exponent : Int) : Reading Found := do
  pass
  let written ← passDigits
  if written.isEmpty then
    match ← peek with
    | some _ => refuseNext .invalidNumber
    | none => refuseNext .endInValue
  else
    let (value, excess) := appendDigits greatestInteger digits written
    exponentOrEnd negative value (exponent - ((written.length - excess.length : Nat) : Int))

/-- An integer that is followed by neither a point nor an exponent. -/
def integerFound (negative : Bool) (digits : Nat) : Found :=
  if !negative then .integer digits
  else if 0 < digits ∧ digits ≤ Nat.pow 2 63 then .integer (-(digits : Int))
  else .float true (.ofNat digits)

/-- What follows the digits before the point of a number; `excess` of them did not fit. -/
def afterInteger (negative : Bool) (digits excess : Nat) : Reading Found := do
  match ← peek with
  | some '.' => readFraction negative digits excess
  | some 'e' => readExponent negative digits excess
  | some 'E' => readExponent negative digits excess
  | _ => if excess = 0 then return integerFound negative digits else floatOfParts negative digits excess

/-- A number, whose sign has been passed. -/
def readNumber (negative : Bool) : Reading Found := do
  match ← peek with
  | none => refuse .endInValue
  | some '0' =>
    pass
    match ← peek with
    | some c => if c.isDigit then refuseNext .invalidNumber else afterInteger negative 0 0
    | none => afterInteger negative 0 0
  | some c =>
    unless c.isDigit do refuseNext .invalidNumber
    let written ← passDigits
    let (value, excess) := appendDigits greatestInteger 0 written
    afterInteger negative value excess.length

end JsxLowering.Config
