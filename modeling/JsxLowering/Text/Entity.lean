import JsxLowering.Text.EntityTable

/-!
# Character references

A reference is `&#` with decimal digits, `&#x` with hexadecimal digits, or `&` with a name of the entity table,
each closed by `;`. References are replaced from left to right and what replaces them is not read again; an
ampersand that starts no complete reference stands for itself.
-/

namespace JsxLowering.Text

/-- The value of a digit in a base up to sixteen. -/
def digitValue? (base : Nat) (c : Char) : Option Nat :=
  let value :=
    if '0' ≤ c ∧ c ≤ '9' then some (c.toNat - '0'.toNat)
    else if 'a' ≤ c ∧ c ≤ 'f' then some (c.toNat - 'a'.toNat + 10)
    else if 'A' ≤ c ∧ c ≤ 'F' then some (c.toNat - 'A'.toNat + 10)
    else none
  value.filter (· < base)

/-- The number that digits spell, most significant first; other characters count as zero. -/
def digitsValue (base : Nat) (digits : List Char) : Nat :=
  digits.foldl (fun n c => n * base + (digitValue? base c).getD 0) 0

/-- The character with a code point, if the number is one. -/
def charOfCode? (n : Nat) : Option Char :=
  if n.isValidChar then some (Char.ofNat n) else none

/-- Reads digits and the closing `;`; `lead` characters stand between the ampersand and the digits. The width counts
all characters after the ampersand. -/
def numericReference? (base lead : Nat) (text : List Char) : Option (Char × Nat) :=
  let digits := text.takeWhile fun c => (digitValue? base c).isSome
  let closed := (text.drop digits.length).head? == some ';'
  if digits.isEmpty || !closed then none
  else (charOfCode? (digitsValue base digits)).map fun c => (c, lead + digits.length + 1)

/-- How many characters after an ampersand are searched for the `;` of a name. -/
def nameScanLimit : Nat := 10

/-- Reads a name of the entity table and its closing `;`. -/
def namedReference? (text : List Char) : Option (Char × Nat) :=
  let window := text.take nameScanLimit
  let name := window.takeWhile (· ≠ ';')
  if name.length < window.length then (entityChar? (String.ofList name)).map fun c => (c, name.length + 1)
  else none

/-- The reference whose ampersand has just been read: its character and its width after the ampersand. -/
def reference? : List Char → Option (Char × Nat)
  | '#' :: 'x' :: rest => numericReference? 16 2 rest
  | '#' :: rest => numericReference? 10 1 rest
  | text => namedReference? text

/-- Decodes the text after `skip` characters of it have been passed over. -/
def decodeAfter : Nat → List Char → List Char
  | _, [] => []
  | skip + 1, _ :: rest => decodeAfter skip rest
  | 0, c :: rest =>
    if c = '&' then
      match reference? rest with
      | some (decoded, width) => decoded :: decodeAfter width rest
      | none => c :: decodeAfter 0 rest
    else c :: decodeAfter 0 rest

/-- Replaces every complete character reference by its character. -/
def decodeChars (text : List Char) : List Char :=
  decodeAfter 0 text

/-- Replaces every complete character reference by its character. -/
def decodeEntities (text : String) : String :=
  String.ofList (decodeChars text.toList)

end JsxLowering.Text
