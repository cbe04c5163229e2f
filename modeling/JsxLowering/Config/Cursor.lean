import JsxLowering.Config.Error
import JsxLowering.Text.Entity

/-!
# Reading a configuration text

A cursor is a place in a text. Readers move it, and fail with a cause at the cursor or at the byte after it.
-/

namespace JsxLowering.Config

/-- A place in a text: what is left of it, and the bytes before. -/
structure Cursor where
  rest : List Char
  offset : Nat
  deriving DecidableEq, Repr

/-- A reader. -/
abbrev Reading := StateT Cursor (Except Error)

/-- Moves past characters. -/
def Cursor.skip (cursor : Cursor) (count : Nat) : Cursor :=
  ⟨cursor.rest.drop count, cursor.offset + Text.byteWidth (cursor.rest.take count)⟩

section

variable {α : Type}

/-- Refuses the text at an offset. -/
def refuseAt (offset : Nat) (cause : Cause) : Reading α := throw ⟨cause, offset⟩

/-- Refuses the text at the cursor. -/
def refuse (cause : Cause) : Reading α := do refuseAt (← get).offset cause

/-- Refuses the text at the byte after the cursor, if there is one. -/
def refuseNext (cause : Cause) : Reading α := do
  let cursor ← get
  refuseAt (if cursor.rest.isEmpty then cursor.offset else cursor.offset + 1) cause

end

/-- The next character. -/
def peek : Reading (Option Char) := return (← get).rest.head?

/-- Moves past the next character. -/
def pass : Reading Unit := modify (·.skip 1)

/-- The white space between values. -/
def isLayout (c : Char) : Bool := c == ' ' || c == '\n' || c == '\t' || c == '\r'

/-- Moves past white space, and answers the next character. -/
def peekToken : Reading (Option Char) := do
  modify fun cursor => cursor.skip (cursor.rest.takeWhile isLayout).length
  peek

/-- Moves past the rest of a word. -/
def passWord : List Char → Reading Unit
  | [] => return
  | expected :: more => do
    match ← peek with
    | none => refuse .endInValue
    | some c =>
      if c = expected then
        pass
        passWord more
      else refuseNext .expectedWord

/-! ### Strings -/

/-- The value of the four hexadecimal digits that a text starts with, at an offset. -/
def hexEscape (offset : Nat) (text : List Char) : Except Error Nat :=
  let digits := text.take 4
  if digits.length = 4 ∧ digits.all fun c => (Text.digitValue? 16 c).isSome then .ok (Text.digitsValue 16 digits)
  else if Text.byteWidth text < 4 then .error ⟨.endInString, offset + Text.byteWidth text⟩
  else .error ⟨.invalidEscape, offset + 4⟩

/-- The second half of a surrogate pair whose first half, at an offset, has been read; `text` follows it. -/
def surrogatePair (offset high : Nat) : List Char → Except Error (Char × Nat)
  | [] => .error ⟨.endInString, offset + 6⟩
  | '\\' :: [] => .error ⟨.endInString, offset + 7⟩
  | '\\' :: 'u' :: text =>
    match hexEscape (offset + 8) text with
    | .error error => .error error
    | .ok low =>
      if 0xDC00 ≤ low ∧ low ≤ 0xDFFF then
        .ok (Char.ofNat (0x10000 + (high - 0xD800) * 0x400 + (low - 0xDC00)), 12)
      else .error ⟨.loneSurrogate, offset + 12⟩
  | '\\' :: _ :: _ => .error ⟨.endOfHexEscape, offset + 8⟩
  | _ :: _ => .error ⟨.endOfHexEscape, offset + 7⟩

/-- The character that an escape with four digits stands for, and the characters that are read for it. The escape starts
at an offset, and `text` follows its `\u`. -/
def unicodeEscape (offset : Nat) (text : List Char) : Except Error (Char × Nat) :=
  match hexEscape (offset + 2) text with
  | .error error => .error error
  | .ok code =>
    if 0xDC00 ≤ code ∧ code ≤ 0xDFFF then .error ⟨.loneSurrogate, offset + 6⟩
    else if 0xD800 ≤ code ∧ code ≤ 0xDBFF then surrogatePair offset code (text.drop 4)
    else .ok (Char.ofNat code, 6)

/-- The character that an escape stands for, and the characters that are read for it. The escape starts at an offset,
and `text` follows its backslash. -/
def escape (offset : Nat) : List Char → Except Error (Char × Nat)
  | [] => .error ⟨.endInString, offset + 1⟩
  | '"' :: _ => .ok ('"', 2)
  | '\\' :: _ => .ok ('\\', 2)
  | '/' :: _ => .ok ('/', 2)
  | 'b' :: _ => .ok ('\x08', 2)
  | 'f' :: _ => .ok ('\x0C', 2)
  | 'n' :: _ => .ok ('\n', 2)
  | 'r' :: _ => .ok ('\r', 2)
  | 't' :: _ => .ok ('\t', 2)
  | 'u' :: text => unicodeEscape offset text
  | _ :: _ => .error ⟨.invalidEscape, offset + 2⟩

/-- The characters of a string whose opening quote has been read, and the place after its closing quote. -/
def stringChars : Cursor → Except Error (List Char × Cursor)
  | ⟨[], offset⟩ => .error ⟨.endInString, offset⟩
  | ⟨c :: rest, offset⟩ =>
    if c = '"' then .ok ([], ⟨rest, offset + 1⟩)
    else if c = '\\' then
      match escape offset rest with
      | .error error => .error error
      | .ok (char, count) => do
        let (chars, cursor) ← stringChars ((⟨rest, offset + 1⟩ : Cursor).skip (count - 1))
        return (char :: chars, cursor)
    else if c.toNat < 0x20 then .error ⟨.controlCharacter, offset + 1⟩
    else do
      let (chars, cursor) ← stringChars ⟨rest, offset + c.utf8Size⟩
      return (c :: chars, cursor)
termination_by cursor => cursor.rest.length
decreasing_by
  · simp only [Cursor.skip, List.length_drop, List.length_cons]; omega
  · simp

/-- A string, whose opening quote is the next character. -/
def readString : Reading String := do
  pass
  match stringChars (← get) with
  | .error error => throw error
  | .ok (chars, cursor) =>
    set cursor
    return String.ofList chars

end JsxLowering.Config
