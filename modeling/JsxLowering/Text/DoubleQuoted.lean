/-!
# Strings in double quotes

How a string is written in a printed program: between double quotes, with escapes for the characters that cannot
stand there and for some that are hard to see. A closing script tag is broken up, so that the program may stand
in a page.
-/

namespace JsxLowering.Text

/-- Whether a text starts with the end of a closing script tag, in any case. -/
def closesScript (text : List Char) : Bool :=
  (text.take 7).map Char.toLower == "/script".toList

/-- How a character is written in a string, given what follows it. -/
def escapeChar (c : Char) (rest : List Char) : List Char :=
  match c with
  | '\x00' => if (rest.head?.map Char.isDigit).getD false then "\\x00".toList else "\\0".toList
  | '\x07' => "\\x07".toList
  | '\x08' => "\\b".toList
  | '\x0B' => "\\v".toList
  | '\x0C' => "\\f".toList
  | '\n' => "\\n".toList
  | '\r' => "\\r".toList
  | '\x1B' => "\\x1B".toList
  | '\\' => "\\\\".toList
  | '"' => "\\\"".toList
  | '\u00A0' => "\\xA0".toList
  | '\u2028' => "\\u2028".toList
  | '\u2029' => "\\u2029".toList
  | '<' => if closesScript rest then "<\\".toList else ['<']
  | _ => [c]

/-- A text as it is written between double quotes. -/
def escapeChars : List Char → List Char
  | [] => []
  | c :: rest => escapeChar c rest ++ escapeChars rest

/-- A string in double quotes. -/
def doubleQuoted (text : String) : String :=
  "\"" ++ String.ofList (escapeChars text.toList) ++ "\""

/-- The character that stands before the four digits of half a surrogate pair in a text that keeps such halves. -/
def surrogateMark : Char := '\uFFFD'

/-- The digits after the mark where the text has that character itself. -/
def markDigits : List Char := "fffd".toList

/-- A text that keeps halves of surrogate pairs, as it is written between double quotes. -/
def escapeSurrogates : List Char → List Char
  | '\uFFFD' :: a :: b :: c :: d :: rest =>
    let digits := [a, b, c, d]
    (if digits == markDigits then [surrogateMark] else '\\' :: 'u' :: digits) ++ escapeSurrogates rest
  | [] => []
  | c :: rest => escapeChar c rest ++ escapeSurrogates rest

/-- A string that keeps halves of surrogate pairs, in double quotes. -/
def doubleQuotedSurrogates (text : String) : String :=
  "\"" ++ String.ofList (escapeSurrogates text.toList) ++ "\""

/-- A text as it is written, with closing script tags broken up. -/
def breakScript : List Char → List Char
  | [] => []
  | '<' :: rest => if closesScript rest then '<' :: '\\' :: breakScript rest else '<' :: breakScript rest
  | c :: rest => c :: breakScript rest

end JsxLowering.Text
