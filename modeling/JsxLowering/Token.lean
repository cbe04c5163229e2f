import JsxLowering.Comment
import JsxLowering.Decimal.Binary64
import JsxLowering.Fault

/-!
# Tokens

The tokens of the host language, with what stands before each of them: whether a line ends there, and what the
comments there say.
-/

namespace JsxLowering

/-- What a token is. -/
inductive TokenKind where
  | eof
  /-- Text that is no token. -/
  | invalid
  /-- An identifier or keyword, with its escapes resolved; `escaped` says that it had some. -/
  | word (text : String) (escaped : Bool)
  | privateName (text : String)
  /-- An operator, bracket or other mark. -/
  | mark (text : String)
  | number (value : Decimal.Binary64) (raw : String)
  | bigint (value : Nat) (raw : String)
  /-- A string; `surrogates` says that its value holds halves of surrogate pairs, each kept as the replacement character
  and four digits. -/
  | string (value : String) (surrogates : Bool)
  /-- A piece of a template; `sound` says that its escapes have a meaning, `more` that an expression follows it. -/
  | template (raw : String) (sound more : Bool)
  | regex (pattern flags : String)
  /-- Text between tags. -/
  | markupText (raw : String)
  deriving DecidableEq, Repr

/-- A token as it is found at the start of a text. -/
structure Scanned where
  kind : TokenKind
  /-- Its length in characters. -/
  length : Nat
  /-- What is wrong with it. -/
  faults : List Fault
  deriving DecidableEq, Repr

namespace Scanned

/-- A token with nothing wrong. -/
def sound (kind : TokenKind) (length : Nat) : Scanned := ⟨kind, length, []⟩

/-- Text that is no token. -/
def wrong (fault : Fault) (length : Nat) : Scanned := ⟨.invalid, length, [fault]⟩

end Scanned

/-- A token with its place. -/
structure Token where
  kind : TokenKind
  start : Nat
  stop : Nat
  /-- Whether a line ends between the token before and this one. -/
  newline : Bool
  /-- Whether a comment before the token says that the call after it has no effect. -/
  pure : Bool
  /-- Whether a comment before the token says that calls of the function after it have no effect. -/
  effectless : Bool
  deriving DecidableEq, Repr

/-- The words that are tokens of their own, also those that may be names. -/
def keywords : List String := [
  "await", "break", "case", "catch", "class", "const", "continue", "debugger", "default", "delete", "do", "else",
  "enum", "export", "extends", "false", "finally", "for", "function", "if", "import", "in", "instanceof", "new",
  "null", "return", "super", "switch", "this", "throw", "true", "try", "typeof", "var", "void", "while", "with",
  "async", "from", "get", "meta", "of", "set", "target", "accessor", "source", "defer", "abstract", "as", "asserts",
  "assert", "any", "boolean", "constructor", "declare", "infer", "intrinsic", "is", "keyof", "module", "namespace",
  "never", "out", "readonly", "require", "number", "object", "satisfies", "string", "symbol", "type", "undefined",
  "unique", "using", "unknown", "global", "bigint", "override", "implements", "interface", "let", "package",
  "private", "protected", "public", "static", "yield"]

/-- The words that are never names. -/
def properKeywords : List String := [
  "break", "case", "catch", "class", "const", "continue", "debugger", "default", "delete", "do", "else", "enum",
  "export", "extends", "false", "finally", "for", "function", "if", "import", "in", "instanceof", "new", "null",
  "return", "super", "switch", "this", "throw", "true", "try", "typeof", "var", "void", "while", "with"]

namespace TokenKind

/-- How a message names a number that is written so. -/
def numberName (raw : String) : String :=
  match raw.toList with
  | '0' :: c :: rest =>
    if c == 'x' || c == 'X' then "hex"
    else if c == 'b' || c == 'B' then "binary"
    else if c == 'o' || c == 'O' || (c :: rest).all fun d => '0' ≤ d && d ≤ '7' then "octal"
    else if (c :: rest).any fun d => d == '.' || d == 'e' || d == 'E' then "float"
    else "decimal"
  | text => if text.any fun d => d == '.' || d == 'e' || d == 'E' then "float" else "decimal"

/-- How a message names a token. -/
def describe : TokenKind → String
  | eof => "EOF"
  | invalid => "Unknown"
  | word text _ => if keywords.contains text then text else "Identifier"
  | privateName _ => "#identifier"
  | mark text => text
  | number _ raw => numberName raw
  | bigint _ raw => numberName raw
  | string _ _ => "string"
  | template _ _ more => if more then "$\x7b" else "template"
  | regex _ _ => "/regexp/"
  | markupText _ => "jsx"

/-- Whether the token is the given mark. -/
def isMark (kind : TokenKind) (text : String) : Bool :=
  match kind with
  | mark t => t == text
  | _ => false

/-- Whether the token is the given word. -/
def isWord (kind : TokenKind) (text : String) : Bool :=
  match kind with
  | word t _ => t == text
  | _ => false

/-- Whether the token is a keyword that is written with escapes. -/
def isEscapedKeyword : TokenKind → Bool
  | word text true => keywords.contains text
  | _ => false

/-- Whether a name may stand here: any word but the proper keywords. -/
def isName : TokenKind → Bool
  | word text _ => !properKeywords.contains text
  | _ => false

/-- Whether the token is an identifier or a keyword. -/
def isAnyWord : TokenKind → Bool
  | word _ _ => true
  | _ => false

end TokenKind

namespace Token

/-- The span of a token. -/
def span (t : Token) : Span := ⟨t.start, t.stop⟩

end Token

end JsxLowering
