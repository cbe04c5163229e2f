/-!
# Blank characters

The white space of the host language and its line ends. `isBlank` is the class that its regular expressions write
`\s`: the characters with the Unicode property `White_Space`, without the next-line control and with the byte order
mark.
-/

namespace JsxLowering.Text

/-- White space, line ends included. -/
def isBlank (c : Char) : Bool :=
  let n := c.toNat
  (9 ≤ n && n ≤ 13) || n == 0x20 || n == 0xA0 || n == 0x1680 || (0x2000 ≤ n && n ≤ 0x200A) || n == 0x2028 ||
    n == 0x2029 || n == 0x202F || n == 0x205F || n == 0x3000 || n == 0xFEFF

/-- The characters that end a line of source text. -/
def endsLine (c : Char) : Bool :=
  c == '\n' || c == '\r' || c == '\u2028' || c == '\u2029'

end JsxLowering.Text
