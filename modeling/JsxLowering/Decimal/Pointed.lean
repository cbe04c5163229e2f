import JsxLowering.Decimal.Shortest

/-!
# Decimals with a point

A notation that always shows that a number is not an integer: positional with a point up to `1e16` and down to
`1e-5`, with an exponent outside.
-/

namespace JsxLowering.Decimal

/-- The text of digits with a point or an exponent. -/
def Digits.pointed (d : Digits) : List Char :=
  let count := d.digits.length
  if (count : Int) ≤ d.point ∧ d.point ≤ 16 then
    d.digits ++ List.replicate (d.point - count).toNat '0' ++ ['.', '0']
  else if 0 < d.point ∧ d.point ≤ 16 then d.digits.take d.point.toNat ++ '.' :: d.digits.drop d.point.toNat
  else if -5 < d.point ∧ d.point ≤ 0 then '0' :: '.' :: List.replicate (-d.point).toNat '0' ++ d.digits
  else
    let exponent := d.point - 1
    let tail := 'e' :: (if exponent < 0 then ['-'] else []) ++ Nat.toDigits 10 exponent.natAbs
    match d.digits with
    | [] => []
    | [c] => c :: tail
    | c :: rest => c :: '.' :: rest ++ tail

/-- The text of a number with a point or an exponent. -/
def Binary64.pointed : Binary64 → String
  | .infinity => "inf"
  | .finite mantissa q => String.ofList (shortest mantissa q).pointed

end JsxLowering.Decimal
