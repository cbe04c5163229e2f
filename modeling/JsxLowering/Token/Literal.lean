import JsxLowering.Text.Blank
import JsxLowering.Text.DoubleQuoted
import JsxLowering.Text.Entity
import JsxLowering.Text.Name
import JsxLowering.Token

/-!
# Reading words, numbers, strings, templates and patterns

Each reader takes the text from a place on and answers how many characters it takes, what they say and what is wrong
with them.
-/

namespace JsxLowering

/-! ### Escapes -/

/-- The value of exactly `count` hexadecimal digits. -/
def hexValue? (count : Nat) (text : List Char) : Option Nat :=
  let digits := text.take count
  if digits.length = count ∧ digits.all fun c => (Text.digitValue? 16 c).isSome then
    some (Text.digitsValue 16 digits)
  else none

/-- The code point of an escape whose `\u` has been read, and the characters it takes. -/
def codePointEscape? : List Char → Option (Nat × Nat)
  | '{' :: rest =>
    let digits := rest.takeWhile (· ≠ '}')
    let n := Text.digitsValue 16 digits
    if digits.isEmpty ∨ !(digits.all fun c => (Text.digitValue? 16 c).isSome) ∨ digits.length = rest.length ∨
        0x10FFFF < n then none
    else some (n, digits.length + 2)
  | text => (hexValue? 4 text).map (·, 4)

/-- A unit of the value of a string: a character, or half of a surrogate pair on its own. -/
inductive StringUnit where
  | char (c : Char)
  | surrogate (code : Nat)
  deriving DecidableEq, Repr

namespace StringUnit

/-- The unit with a code point. -/
def ofCode (n : Nat) : StringUnit :=
  match Text.charOfCode? n with
  | some c => .char c
  | none => .surrogate n

/-- Whether the unit is half of a surrogate pair. -/
def isSurrogate : StringUnit → Bool
  | .char _ => false
  | .surrogate _ => true

/-- The character of a unit. -/
def plain : StringUnit → List Char
  | .char c => [c]
  | .surrogate _ => []

/-- A unit as it is kept in a text with surrogates: a surrogate as a mark and four digits, and the mark itself
likewise. -/
def marked : StringUnit → List Char
  | .char c => if c = Text.surrogateMark then c :: Text.markDigits else [c]
  | .surrogate code => Text.surrogateMark :: Nat.toDigits 16 code

end StringUnit

/-- The token of a string with the given value. -/
def stringOfUnits (units : List StringUnit) : TokenKind :=
  if units.any StringUnit.isSurrogate then .string (String.ofList (units.flatMap StringUnit.marked)) true
  else .string (String.ofList (units.flatMap StringUnit.plain)) false

/-- The character of two halves of a surrogate pair. -/
def pairedUnit? (high low : Nat) : Option StringUnit :=
  if 0xD800 ≤ high ∧ high < 0xDC00 ∧ 0xDC00 ≤ low ∧ low < 0xE000 then
    some (.ofCode (0x10000 + (high - 0xD800) * 0x400 + (low - 0xDC00)))
  else none

/-- The unit of an escape whose `\u` has been read; two escapes of four digits each may be the halves of one
character. -/
def unicodeEscape? (text : List Char) : Option (StringUnit × Nat) :=
  match hexValue? 4 text with
  | some high =>
    match text.drop 4 with
    | '\\' :: 'u' :: rest =>
      match (hexValue? 4 rest).bind (pairedUnit? high) with
      | some unit => some (unit, 10)
      | none => some (.ofCode high, 4)
    | _ => some (.ofCode high, 4)
  | none => (codePointEscape? text).map fun (n, width) => (.ofCode n, width)

/-- Whether a character is an octal digit. -/
def isOctalDigit (c : Char) : Bool := '0' ≤ c && c ≤ '7'

/-- The units of an escape in a string whose backslash has been read, and how many characters it takes; `none` if the
escape has no meaning. -/
def stringEscape? : List Char → Option (List StringUnit × Nat)
  | [] => some ([], 0)
  | '\r' :: '\n' :: _ => some ([], 2)
  | 'u' :: rest => (unicodeEscape? rest).map fun (unit, n) => ([unit], n + 1)
  | 'x' :: rest => (hexValue? 2 rest).map fun n => ([.ofCode n], 3)
  | c :: rest =>
    if Text.endsLine c then some ([], 1)
    else if c = 'n' then some ([.char '\n'], 1)
    else if c = 't' then some ([.char '\t'], 1)
    else if c = 'r' then some ([.char '\r'], 1)
    else if c = 'b' then some ([.char '\x08'], 1)
    else if c = 'v' then some ([.char '\x0B'], 1)
    else if c = 'f' then some ([.char '\x0C'], 1)
    else if isOctalDigit c then
      let digits := (c :: rest).take (if c ≤ '3' then 3 else 2) |>.takeWhile isOctalDigit
      some ([.ofCode (Text.digitsValue 8 digits)], digits.length)
    else some ([.char c], 1)

/-! ### Words -/

/-- A word as it is read: its characters with escapes resolved, its length, whether it has escapes and what is wrong
with these. -/
structure Word where
  text : List Char
  length : Nat
  escaped : Bool
  faults : List Fault

/-- The character of an escape in a word whose backslash has been read, and how many characters it takes; `first` says
that the word starts with it. -/
def wordEscape (first : Bool) : List Char → Except Fault Char × Nat
  | 'u' :: digits =>
    match codePointEscape? digits with
    | some (n, width) =>
      match Text.charOfCode? n with
      | some c =>
        let allowed := if first then Text.startsIdentifier c else Text.continuesIdentifier c
        (if allowed then .ok c else .error (.invalidCharacter c), width + 1)
      | none => (.error .invalidUnicodeEscape, width + 1)
    | none => (.error .invalidUnicodeEscape, if digits.head? = some '{' then 2 else 1)
  | _ :: _ => (.error .invalidUnicodeEscape, 1)
  | [] => (.error .invalidUnicodeEscape, 0)

/-- A word from the given place on, after `skip` characters of an escape; `first` says that nothing of it has been
read. -/
def readWord : Bool → Nat → List Char → Word
  | _, _, [] => ⟨[], 0, false, []⟩
  | first, skip + 1, _ :: rest =>
    let word := readWord first skip rest
    { word with length := word.length + 1 }
  | first, 0, c :: rest =>
    if Text.continuesIdentifier c then
      let word := readWord false 0 rest
      { word with text := c :: word.text, length := word.length + 1 }
    else if c = '\\' then
      let (found, width) := wordEscape first rest
      let word := readWord false width rest
      match found with
      | .ok c => ⟨c :: word.text, word.length + 1, true, word.faults⟩
      | .error fault => ⟨word.text, word.length + 1, true, fault :: word.faults⟩
    else ⟨[], 0, false, []⟩

/-- Whether a word starts here. -/
def startsWord : List Char → Bool
  | c :: _ => Text.startsIdentifier c || c = '\\'
  | [] => false

/-- The token of a word. -/
def wordToken (text : List Char) : Scanned :=
  let word := readWord true 0 text
  ⟨.word (String.ofList word.text) word.escaped, word.length, word.faults⟩

/-- The token of a private name, whose sign has been read. -/
def privateNameToken (rest : List Char) : Scanned :=
  if startsWord rest then
    let word := readWord true 0 rest
    ⟨.privateName (String.ofList word.text), word.length + 1, word.faults⟩
  else
    match rest with
    | c :: _ => ⟨.eof, 1, [.invalidCharacter c]⟩
    | [] => ⟨.eof, 1, [.unexpectedEnd]⟩

/-! ### Numbers -/

/-- What is wrong where a digit has to stand. -/
def missingDigit : List Char → Fault
  | c :: _ => .invalidCharacter c
  | [] => .unexpectedEnd

/-- Digits of a base with separators between them: how many characters they take. -/
def digitRun (base : Nat) : List Char → Except Fault Nat
  | '_' :: c :: rest =>
    if (Text.digitValue? base c).isSome then (digitRun base rest).map (· + 2) else .error (.invalidCharacter c)
  | ['_'] => .error .unexpectedEnd
  | c :: rest => if (Text.digitValue? base c).isSome then (digitRun base rest).map (· + 1) else .ok 0
  | [] => .ok 0

/-- A run of digits that starts with one: the digits and how many characters they take. -/
def digitsFrom (base : Nat) (text : List Char) : Except Fault (List Char × Nat) := do
  unless (text.head?.bind (Text.digitValue? base)).isSome do throw (missingDigit text)
  let length ← digitRun base text
  return ((text.take length).filter (· ≠ '_'), length)

/-- A number as it is read: its kind, for the text that it takes, and its length. -/
abbrev NumberRead := Except Fault ((String → TokenKind) × Nat)

/-- An integer with a base letter; `text` starts after that letter. -/
def basedNumber (base : Nat) (text : List Char) : NumberRead := do
  let (digits, length) ← digitsFrom base text
  let value := Text.digitsValue base digits
  match text.drop length with
  | 'n' :: _ => return (.bigint value, length + 3)
  | _ => return (.number (.ofNat value), length + 2)

/-- The digits after a point; there may be none. -/
def fractionDigits : List Char → Except Fault (List Char × Nat)
  | '.' :: rest =>
    if (rest.head?.map Char.isDigit).getD false then do
      let (digits, length) ← digitsFrom 10 rest
      return (digits, length + 1)
    else return ([], 1)
  | _ => return ([], 0)

/-- The exponent of a decimal number: its value and its length. -/
def readExponent : List Char → Except Fault (Int × Nat)
  | e :: rest =>
    if e = 'e' ∨ e = 'E' then do
      let (negative, sign) := match rest with
        | '-' :: _ => (true, 1)
        | '+' :: _ => (false, 1)
        | _ => (false, 0)
      let (digits, length) ← digitsFrom 10 (rest.drop sign)
      let value : Int := Text.digitsValue 10 digits
      return (if negative then -value else value, 1 + sign + length)
    else return (0, 0)
  | [] => return (0, 0)

/-- The rest of a decimal number after the digits before its point, which take `length` characters. -/
def decimalRest (whole : List Char) (length : Nat) (text : List Char) : NumberRead := do
  let (fraction, fractionLength) ← fractionDigits text
  let (exponent, exponentLength) ← readExponent (text.drop fractionLength)
  let digits := whole ++ fraction
  let value := Decimal.Binary64.ofDecimal (Text.digitsValue 10 digits) digits.length (exponent - fraction.length)
  return (.number value, length + fractionLength + exponentLength)

/-- What follows the whole digits of a decimal number, of which `length` characters are taken. -/
def decimalTail (whole : List Char) (length : Nat) : List Char → NumberRead
  | 'n' :: _ => .ok (.bigint (Text.digitsValue 10 whole), length + 1)
  | rest => decimalRest whole length rest

/-- A decimal number. -/
def decimalNumber (text : List Char) : NumberRead := do
  let (whole, length) ← match text with
    | '.' :: _ => pure ([], 0)
    | _ => digitsFrom 10 text
  decimalTail whole length (text.drop length)

/-- A number with a zero before its digits: in base eight, unless some digit is not of that base. -/
def zeroLedNumber (text : List Char) : NumberRead :=
  let digits := text.takeWhile Char.isDigit
  let rest := text.drop digits.length
  if digits.all isOctalDigit then .ok (.number (.ofNat (Text.digitsValue 8 digits)), digits.length)
  else decimalRest digits digits.length rest

/-- A number. -/
def readNumber (text : List Char) : NumberRead :=
  match text with
  | '0' :: c :: rest =>
    if c = 'x' ∨ c = 'X' then basedNumber 16 rest
    else if c = 'o' ∨ c = 'O' then basedNumber 8 rest
    else if c = 'b' ∨ c = 'B' then basedNumber 2 rest
    else if c = '_' then .ok (.number .zero, 1)
    else if c.isDigit then zeroLedNumber text
    else decimalNumber text
  | _ => decimalNumber text

/-- The token of a number. A name or digit may not follow it directly. -/
def numberToken (text : List Char) : Scanned :=
  match readNumber text with
  | .error fault => .wrong fault 1
  | .ok (kind, length) =>
    match text.drop length with
    | c :: _ =>
      if Text.startsIdentifier c || c.isDigit then .wrong .invalidNumberEnd length
      else .sound (kind (String.ofList (text.take length))) length
    | [] => .sound (kind (String.ofList text)) length

/-! ### Strings, templates and patterns -/

/-- A string as it is read: its value, its length with the closing quote and its faulty escapes. -/
structure StringRead where
  units : List StringUnit
  length : Nat
  faults : List Fault

/-- Puts units and faults before what is read of a string. -/
def StringRead.after (units : List StringUnit) (faults : List Fault) (read : StringRead) : StringRead :=
  ⟨units ++ read.units, read.length + 1, faults ++ read.faults⟩

/-- A string from after its opening quote on; `none` when it is not closed. An escape without meaning is a fault, and
its characters stand for themselves. -/
def readString (quote : Char) : Nat → List Char → Option StringRead
  | _, [] => none
  | skip + 1, _ :: rest => (readString quote skip rest).map (.after [] [])
  | 0, c :: rest =>
    if c = quote then some ⟨[], 1, []⟩
    else if c = '\n' ∨ c = '\r' then none
    else if c = '\\' then
      match stringEscape? rest with
      | some (units, width) => (readString quote width rest).map (.after units [])
      | none => (readString quote 0 rest).map (.after [] [.invalidEscape])
    else (readString quote 0 rest).map (.after [.char c] [])

/-- The token of a string; `text` starts with its quote. -/
def stringToken (quote : Char) (rest : List Char) : Scanned :=
  match readString quote 0 rest with
  | some read => ⟨stringOfUnits read.units, read.length + 1, read.faults⟩
  | none => .wrong .unterminatedString (rest.length + 1)

/-- A text with its line ends written as line feeds. -/
def lineFeeds : List Char → List Char
  | [] => []
  | '\r' :: '\n' :: rest => '\n' :: lineFeeds rest
  | c :: rest => (if c = '\r' then '\n' else c) :: lineFeeds rest

/-- A piece of a template: its text, its length with what closes it, and whether an expression follows. -/
def readTemplate : Bool → List Char → Option (List Char × Nat × Bool)
  | _, [] => none
  | true, c :: rest => (readTemplate false rest).map fun (raw, length, more) => (c :: raw, length + 1, more)
  | false, '`' :: _ => some ([], 1, false)
  | false, '$' :: '{' :: _ => some ([], 2, true)
  | false, c :: rest =>
    (readTemplate (c = '\\') rest).map fun (raw, length, more) => (c :: raw, length + 1, more)

/-- Whether the escape after a backslash has a meaning in a template. -/
def soundTemplateEscape : List Char → Bool
  | 'u' :: rest => (codePointEscape? rest).isSome
  | 'x' :: rest => (hexValue? 2 rest).isSome
  | '0' :: rest => !(rest.head?.map Char.isDigit).getD false
  | c :: _ => !c.isDigit
  | [] => true

/-- Whether every escape of a piece of a template has a meaning. -/
def soundTemplate : List Char → Bool
  | '\\' :: c :: rest => soundTemplateEscape (c :: rest) && soundTemplate rest
  | [] => true
  | _ :: rest => soundTemplate rest

/-- The token of a piece of a template; `rest` starts after the mark that opens the piece. -/
def templateToken (rest : List Char) : Scanned :=
  match readTemplate false rest with
  | some (raw, length, more) =>
    .sound (.template (String.ofList (lineFeeds raw)) (soundTemplate raw) more) (length + 1)
  | none => .wrong .unterminatedString (rest.length + 1)

/-- The text of a regular expression from after its opening slash on, without the closing one. -/
def readPattern (inClass escaped : Bool) : List Char → Option (List Char)
  | [] => none
  | c :: rest =>
    if Text.endsLine c then none
    else if escaped then (readPattern inClass false rest).map (c :: ·)
    else if c = '/' && !inClass then some []
    else
      let inClass := if c = '[' then true else if c = ']' then false else inClass
      (readPattern inClass (c = '\\') rest).map (c :: ·)

/-- The flags of regular expressions. -/
def regexFlags : List Char := "dgimsuvy".toList

/-- What is wrong with flags, given those before them. -/
def flagFaults (seen : List Char) : List Char → List Fault
  | [] => []
  | c :: rest =>
    let faults := flagFaults (c :: seen) rest
    if !regexFlags.contains c then .unknownFlag c :: faults
    else if seen.contains c then .repeatedFlag c :: faults
    else faults

/-- Whether a character is read as a flag. -/
def isFlagChar (c : Char) : Bool := c.isAlphanum || c == '_' || c == '$'

/-- The token of a regular expression; `rest` starts after its opening slash. The flags are kept in alphabetical
order. -/
def regexToken (rest : List Char) : Scanned :=
  match readPattern false false rest with
  | some pattern =>
    let flags := (rest.drop (pattern.length + 1)).takeWhile isFlagChar
    let kept := regexFlags.filter flags.contains
    ⟨.regex (String.ofList pattern) (String.ofList kept), pattern.length + flags.length + 2, flagFaults [] flags⟩
  | none => ⟨.regex "" "", rest.length + 1, [.unterminatedRegex]⟩

/-- The token of an attribute string: everything up to the next quote of the same kind. -/
def attributeStringToken (quote : Char) (rest : List Char) : Scanned :=
  let value := rest.takeWhile (· ≠ quote)
  if value.length < rest.length then .sound (.string (String.ofList value) false) (value.length + 2)
  else .wrong .unterminatedString (rest.length + 1)

end JsxLowering
