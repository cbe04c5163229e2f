import JsxLowering.Decimal.Pointed
import JsxLowering.Text.Quoted
import JsxLowering.Text.Width

/-!
# Errors of a configuration

Why a configuration text is refused, and where. A place is a byte offset; messages show it as a line and the
bytes read on that line.
-/

namespace JsxLowering.Config

/-- A value that is not of the wanted kind. -/
inductive Found where
  | null
  | boolean (value : Bool)
  | integer (value : Int)
  | float (negative : Bool) (value : Decimal.Binary64)
  | string (value : String)
  | sequence
  | map
  deriving DecidableEq, Repr

/-- The kinds of values that a configuration has. -/
inductive Wanted where
  | string
  | boolean
  /-- The configuration itself. -/
  | config
  deriving DecidableEq, Repr

/-- Why a configuration text is refused. -/
inductive Cause where
  | endInValue
  | endInObject
  | endInList
  | endInString
  | expectedColon
  | expectedListEnd
  | expectedObjectEnd
  | expectedWord
  | expectedValue
  | invalidEscape
  | invalidNumber
  | numberOutOfRange
  | controlCharacter
  | keyNotString
  | loneSurrogate
  | endOfHexEscape
  | trailingComma
  | trailingCharacters
  | unknownField (name : String)
  | duplicateField (name : String)
  | invalidLength (count : Nat)
  | invalidType (found : Found) (wanted : Wanted)
  deriving DecidableEq, Repr

/-- A refusal, with the bytes before its place. -/
structure Error where
  cause : Cause
  offset : Nat
  deriving DecidableEq, Repr

/-- The fields of a configuration, in order. -/
def fieldNames : List String := ["namespace", "componentMethod", "literalMethod", "filename", "sourceMap"]

/-- A name as messages show it. -/
def ticked (name : String) : String := "`" ++ name ++ "`"

/-- How a message names a value. -/
def Found.describe : Found → String
  | null => "null"
  | boolean value => "boolean " ++ ticked (if value then "true" else "false")
  | integer value => "integer " ++ ticked (toString value)
  | float negative value => "floating point " ++ ticked ((if negative then "-" else "") ++ value.pointed)
  | string value => "string " ++ Text.quoted value
  | sequence => "sequence"
  | map => "map"

/-- How a message names a kind of values. -/
def Wanted.describe : Wanted → String
  | string => "a string"
  | boolean => "a boolean"
  | config => "struct TransformConfig"

/-- The message of a cause. -/
def Cause.message : Cause → String
  | endInValue => "EOF while parsing a value"
  | endInObject => "EOF while parsing an object"
  | endInList => "EOF while parsing a list"
  | endInString => "EOF while parsing a string"
  | expectedColon => "expected `:`"
  | expectedListEnd => "expected `,` or `]`"
  | expectedObjectEnd => "expected `,` or `\x7d`"
  | expectedWord => "expected ident"
  | expectedValue => "expected value"
  | invalidEscape => "invalid escape"
  | invalidNumber => "invalid number"
  | numberOutOfRange => "number out of range"
  | controlCharacter => "control character (\\u0000-\\u001F) found while parsing a string"
  | keyNotString => "key must be a string"
  | loneSurrogate => "lone leading surrogate in hex escape"
  | endOfHexEscape => "unexpected end of hex escape"
  | trailingComma => "trailing comma"
  | trailingCharacters => "trailing characters"
  | unknownField name =>
    "unknown field " ++ ticked name ++ ", expected one of " ++ String.intercalate ", " (fieldNames.map ticked)
  | duplicateField name => "duplicate field " ++ ticked name
  | invalidLength count =>
    "invalid length " ++ toString count ++ ", expected struct TransformConfig with 5 elements"
  | invalidType found wanted => "invalid type: " ++ found.describe ++ ", expected " ++ wanted.describe

/-- The line, from 1, and the bytes on that line before a byte offset of a text. -/
def placeAt (offset : Nat) : Nat → Nat → List Char → Nat × Nat
  | line, column, [] => (line, column)
  | line, column, c :: rest =>
    if offset < c.utf8Size then (line, column + offset)
    else if c = '\n' then placeAt (offset - 1) (line + 1) 0 rest
    else placeAt (offset - c.utf8Size) line (column + c.utf8Size) rest
termination_by _ _ text => text.length

/-- The message of a refusal of a text. -/
def Error.message (text : String) (error : Error) : String :=
  let (line, column) := placeAt error.offset 1 0 text.toList
  error.cause.message ++ " at line " ++ toString line ++ " column " ++ toString column

end JsxLowering.Config
