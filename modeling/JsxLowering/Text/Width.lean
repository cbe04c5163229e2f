/-!
# Widths of text

Source positions count UTF-8 bytes and columns of a source map count UTF-16 units. Both are sums over characters, so
that a position is the width of the text before it.
-/

namespace JsxLowering.Text

/-- The number of UTF-8 bytes of a list of characters. -/
def byteWidth : List Char → Nat
  | [] => 0
  | c :: rest => c.utf8Size + byteWidth rest

/-- The number of UTF-16 units of a character. -/
def unitWidth (c : Char) : Nat :=
  if c.toNat < 0x10000 then 1 else 2

/-- The characters that the first `width` bytes spell; a character that starts before that end is taken whole. -/
def takeBytes : Nat → List Char → List Char
  | _, [] => []
  | 0, _ => []
  | width@(_ + 1), c :: rest => c :: takeBytes (width - c.utf8Size) rest

/-- What is left after the first `width` bytes. -/
def dropBytes : Nat → List Char → List Char
  | _, [] => []
  | 0, rest => rest
  | width@(_ + 1), c :: rest => dropBytes (width - c.utf8Size) rest

end JsxLowering.Text
