import JsxLowering.Span
import JsxLowering.Text.Blank

/-!
# Comments

A comment belongs to the token after it, and is printed before what starts there, unless it trails the token
before it. A line comment trails when it follows a token on the same line that is neither `=` nor `(`; a block
comment trails when it follows a token on the same line and a line end comes before the next token.
-/

namespace JsxLowering

/-- A comment that belongs to the token after it. -/
structure Comment where
  /-- The comment as it is written, with its delimiters. -/
  text : List Char
  /-- Whether it runs to the end of its line. -/
  isLine : Bool
  /-- Whether a line end stands before it. -/
  newlineBefore : Bool
  /-- Whether a line end stands after it. -/
  newlineAfter : Bool
  deriving DecidableEq, Repr

/-- What a comment says about the code after it. -/
inductive Annotation where
  | none
  /-- The call after it has no effect. -/
  | pure
  /-- Calls of the function after it have no effect. -/
  | effectless
  /-- A notice that has to be kept. -/
  | legal
  deriving DecidableEq, Repr

namespace Comment

/-- Whether one text occurs in another. -/
def occursIn (part : List Char) : List Char → Bool
  | [] => part.isEmpty
  | c :: rest => part.isPrefixOf (c :: rest) || occursIn part rest

/-- The text of a comment without its delimiters. -/
def content (c : Comment) : List Char :=
  let body := c.text.drop 2
  if c.isLine then body else body.take (body.length - 2)

/-- Whether the comment runs over several lines. -/
def isMultiline (c : Comment) : Bool :=
  !c.isLine && c.text.any Text.endsLine

/-- Whether a line end stands next to the comment. -/
def hasNewlineAround (c : Comment) : Bool :=
  c.newlineBefore || c.newlineAfter

/-- Whether a text asks to be kept. -/
def mentionsLicense (text : List Char) : Bool :=
  occursIn "@license".toList text || occursIn "@preserve".toList text

/-- What the comment says about the code after it. -/
def annotation (c : Comment) : Annotation :=
  match c.content with
  | '!' :: _ => .legal
  | '*' :: rest => if !c.isLine then (if mentionsLicense rest then .legal else .none) else .none
  | content =>
    let inner := content.dropWhile fun ch => ch == ' ' || ch == '\t' || ch == '\n' || ch == '\r'
    let word := match inner with
      | '@' :: rest => rest
      | '#' :: rest => rest
      | other => other
    let marked := word.length < inner.length
    if marked && "__PURE__".toList.isPrefixOf word then .pure
    else if marked && "__NO_SIDE_EFFECTS__".toList.isPrefixOf word then .effectless
    else if mentionsLicense content then .legal
    else .none

end Comment

end JsxLowering
