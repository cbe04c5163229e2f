import JsxLowering.Decimal.Shortest

/-!
# Numerals

How printed programs write a number: integers below a thousand plainly, larger ones in hexadecimal where that is
shorter than the usual notation, and all others in the shortest of the positional and exponent notations.
-/

namespace JsxLowering.Decimal

/-- `n` zeros. -/
def zeros (n : Nat) : List Char := List.replicate n '0'

/-- The decimal text of an integer, with its sign. -/
def signed (n : Int) : List Char :=
  if n < 0 then '-' :: Nat.toDigits 10 (-n).toNat else Nat.toDigits 10 n.toNat

/-- The usual notation of a number: positional from `1e-6` up to `1e21`, with an exponent outside. -/
def Digits.plain (d : Digits) : List Char :=
  let count := d.digits.length
  if (count : Int) ≤ d.point ∧ d.point ≤ 21 then d.digits ++ zeros (d.point - count).toNat
  else if 0 < d.point ∧ d.point ≤ 21 then d.digits.take d.point.toNat ++ '.' :: d.digits.drop d.point.toNat
  else if -6 < d.point ∧ d.point ≤ 0 then '0' :: '.' :: zeros (-d.point).toNat ++ d.digits
  else
    let exponent := d.point - 1
    let mark := if exponent < 0 then ['e'] else ['e', '+']
    match d.digits with
    | [] => []
    | [c] => c :: mark ++ signed exponent
    | c :: rest => c :: '.' :: rest ++ mark ++ signed exponent

/-- The hexadecimal notation of an integer. -/
def hexNumeral (n : Nat) : List Char :=
  '0' :: 'x' :: Nat.toDigits 16 n

/-- Takes the second text if it is shorter. -/
def shorter (a b : List Char) : List Char :=
  if b.length < a.length then b else a

/-- Writes the zeros after the point of a small fraction into an exponent: `.00012` is `12e-5`. -/
def fractionExponent (text : List Char) : List Char :=
  match text with
  | '.' :: '0' :: rest =>
    let digits := rest.dropWhile (· = '0')
    let places := text.length - 1
    if digits.isEmpty then text else shorter text (digits ++ 'e' :: '-' :: Nat.toDigits 10 places)
  | _ => text

/-- Writes the zeros at the end of an integer into an exponent: `12000` is `12e3`. -/
def zerosExponent (text : List Char) : List Char :=
  let base := dropTrailingZeros text
  let count := text.length - base.length
  if count = 0 then text else shorter text (base ++ 'e' :: Nat.toDigits 10 count)

/-- The number that an exponent's text spells. -/
def exponentValue : List Char → Int
  | '-' :: digits => -(digits.foldl (fun n c => n * 10 + (c.toNat - 48)) 0 : Nat)
  | digits => (digits.foldl (fun n c => n * 10 + (c.toNat - 48)) 0 : Nat)

/-- Moves the digits after the point into the exponent: `1.2e101` is `12e100`. -/
def pointExponent (text : List Char) : List Char :=
  let whole := text.takeWhile (· ≠ '.')
  let fraction := (text.drop (whole.length + 1)).takeWhile (· ≠ 'e')
  let exponent := text.drop (whole.length + fraction.length + 2)
  if whole.length < text.length ∧ whole.length + 1 + fraction.length < text.length then
    shorter text (whole ++ fraction ++ 'e' :: signed (exponentValue exponent - fraction.length))
  else text

/-- The plain notation without what can be left out: the zero before a point and the plus of an exponent. -/
def Digits.bare (d : Digits) : List Char :=
  let text := d.plain
  let text := match text with
    | '0' :: '.' :: rest => '.' :: rest
    | _ => text
  text.filter (· ≠ '+')

/-- The least integer that is not written plainly. -/
def plainLimit : Nat := 1000

/-- The text of a finite number in a printed program; of two texts of one length the earlier named notation wins. -/
def finiteNumeral (mantissa : Nat) (q : Int) : List Char :=
  let d := shortest mantissa q
  match (Binary64.finite mantissa q).integer? with
  | some n =>
    if n < plainLimit then d.plain
    else if (hexNumeral n).length < d.bare.length then hexNumeral n
    else pointExponent (zerosExponent d.bare)
  | none => pointExponent (zerosExponent (fractionExponent d.bare))

/-- The text of a number in a printed program. -/
def Binary64.numeral : Binary64 → String
  | .infinity => "Infinity"
  | .finite mantissa q => String.ofList (finiteNumeral mantissa q)

/-- Whether the number is written with digits only, so that a point directly after it would belong to it. -/
def Binary64.plainInteger (x : Binary64) : Bool :=
  x.numeral.toList.all Char.isDigit

end JsxLowering.Decimal
