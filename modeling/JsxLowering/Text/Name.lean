import JsxLowering.Text.CharRange
import JsxLowering.Text.IdentifierPart
import JsxLowering.Text.IdentifierStart

/-!
# Names

Which texts are identifier names, which of these are reserved, and which can therefore stand as a bare identifier:
`isValidIdentifier` is `isIdentifierName` without the reserved words.
-/

namespace JsxLowering.Text

/-- Characters a name may start with: `$`, `_` and those with the property `ID_Start`. -/
def startsIdentifier (c : Char) : Bool :=
  if c.toNat < 0x80 then c.isAlpha || c == '$' || c == '_' else covers identifierStartRanges c

/-- Characters a name may go on with: those that start one, digits, marks, connectors and the two joiners. -/
def continuesIdentifier (c : Char) : Bool :=
  if c.toNat < 0x80 then c.isAlphanum || c == '$' || c == '_'
  else c == '\u200C' || c == '\u200D' || covers identifierStartRanges c || covers identifierPartRanges c

/-- A non-empty text whose first character starts a name and whose other characters continue one. -/
def isIdentifierChars : List Char → Bool
  | [] => false
  | c :: rest => startsIdentifier c && rest.all continuesIdentifier

/-- Whether a text is an identifier name; reserved words are names too. -/
def isIdentifierName (text : String) : Bool :=
  isIdentifierChars text.toList

/-- The words that strict code never allows as a bare identifier. -/
def reservedWords : List String := [
  "break", "case", "catch", "class", "const", "continue", "debugger", "default", "delete", "do", "else", "enum",
  "export", "extends", "false", "finally", "for", "function", "if", "implements", "import", "in", "instanceof",
  "interface", "let", "new", "null", "package", "private", "protected", "public", "return", "static", "super",
  "switch", "this", "throw", "true", "try", "typeof", "var", "void", "while", "with", "yield"]

/-- Whether a name can be written as a bare identifier, as a reference or as an object key. -/
def isValidIdentifier (text : String) : Bool :=
  isIdentifierName text && !reservedWords.contains text

end JsxLowering.Text
