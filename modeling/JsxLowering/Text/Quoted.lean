import JsxLowering.Text.CharRange
import JsxLowering.Text.Unprintable

/-!
# Quoted text in messages

A name that a message mentions is shown between double quotes, with an escape for every character that would not
show as itself: controls and unassigned code points, and marks that extend the character before them.
-/

namespace JsxLowering.Text

/-- The lower-case hexadecimal digits of a number, without padding. -/
def hexDigits (n : Nat) : String :=
  String.ofList (Nat.toDigits 16 n)

/-- How one character is written. -/
def quotedChar (c : Char) : String :=
  if c == '"' then "\\\""
  else if c == '\\' then "\\\\"
  else if c == '\t' then "\\t"
  else if c == '\r' then "\\r"
  else if c == '\n' then "\\n"
  else if c == '\x00' then "\\0"
  else if covers unprintableRanges c || covers extendingMarkRanges c then
    "\\u\x7b" ++ hexDigits c.toNat ++ "\x7d"
  else c.toString

/-- A text between double quotes. -/
def quoted (text : String) : String :=
  "\"" ++ String.join (text.toList.map quotedChar) ++ "\""

end JsxLowering.Text
