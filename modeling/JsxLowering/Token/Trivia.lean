import JsxLowering.Text.Blank
import JsxLowering.Token

/-!
# Between tokens

White space and comments between two tokens. A comment that trails the token before it is forgotten; the others are
kept for the token after them. In scripts `<!--`, and `-->` at the start of a line, open a comment too.
-/

namespace JsxLowering

/-- White space between tokens: besides the blanks of the host language also the next-line control and the zero-width
space. -/
def isTokenBlank (c : Char) : Bool :=
  Text.isBlank c || c == '\u0085' || c == '\u200B'

/-- What has been passed since the last token. -/
structure Trivia where
  /-- The bytes passed. -/
  width : Nat
  /-- Whether a line ended, in a comment or outside. -/
  newline : Bool
  /-- Whether a line ended outside block comments. -/
  brokenLine : Bool
  /-- The comments that do not trail the last token, the latest first. -/
  pending : List Comment
  /-- Whether a comment said that the call after it has no effect. -/
  pure : Bool
  /-- Whether a comment said that calls of the function after it have no effect. -/
  effectless : Bool
  /-- The first comment. -/
  opening : Option Comment

namespace Trivia

/-- Nothing passed yet; `atStart` says that no token stands before. -/
def start (atStart : Bool) : Trivia := ⟨0, false, atStart, [], false, false, none⟩

/-- Passes one character that belongs to no comment. -/
def pass (t : Trivia) (c : Char) : Trivia := { t with width := t.width + c.utf8Size }

/-- Passes a line end: the comments on the line of the last token trail it. -/
def endLine (t : Trivia) : Trivia :=
  let pending :=
    if t.brokenLine then
      match t.pending with
      | [] => []
      | last :: earlier => { last with newlineAfter := true } :: earlier
    else []
  { t with newline := true, brokenLine := true, pending }

/-- Notes a comment. -/
def addComment (afterOpener : Bool) (t : Trivia) (text : List Char) (isLine : Bool) : Trivia :=
  let comment : Comment := ⟨text, isLine, t.brokenLine, isLine⟩
  let trails := isLine && !t.brokenLine && !afterOpener
  { t with
    newline := t.newline || isLine || comment.isMultiline
    brokenLine := t.brokenLine || isLine
    pending := if trails then [] else comment :: t.pending
    pure := t.pure || comment.annotation == .pure
    effectless := t.effectless || comment.annotation == .effectless
    opening := t.opening <|> some comment }

end Trivia

/-- The number of characters up to the end of a block comment whose opening has been read. -/
def blockCommentLength? : List Char → Option Nat
  | [] => none
  | '*' :: '/' :: _ => some 2
  | _ :: rest => (blockCommentLength? rest).map (· + 1)

/-- Whether a comment that runs to the end of its line starts here; `atLine` says that a line starts here. -/
def opensLineComment (scripted atLine : Bool) : List Char → Bool
  | '/' :: '/' :: _ => true
  | '<' :: '!' :: '-' :: '-' :: _ => scripted
  | '-' :: '-' :: '>' :: _ => scripted && atLine
  | _ => false

/-- What is passed in a text: where it is read matters. -/
structure TriviaRules where
  /-- Whether the text is a script. -/
  scripted : Bool
  /-- Whether a line comment after the last token belongs to what follows. -/
  afterOpener : Bool

/-- Passes white space and comments, after `skip` characters that already belong to a comment. The second result is
the text from the next token on. -/
def passTrivia (rules : TriviaRules) : Nat → Trivia → List Char → Trivia × List Char
  | _, t, [] => (t, [])
  | skip + 1, t, c :: rest => passTrivia rules skip (t.pass c) rest
  | 0, t, c :: rest =>
    if Text.endsLine c then passTrivia rules 0 (t.pass c).endLine rest
    else if isTokenBlank c then passTrivia rules 0 (t.pass c) rest
    else if opensLineComment rules.scripted (t.newline || t.brokenLine) (c :: rest) then
      let line := rest.takeWhile fun ch => !Text.endsLine ch
      passTrivia rules line.length ((t.addComment rules.afterOpener (c :: line) true).pass c) rest
    else
      match c, rest with
      | '/', '*' :: body =>
        match blockCommentLength? body with
        | some length =>
          let text := '/' :: '*' :: body.take length
          passTrivia rules (length + 1) ((t.addComment rules.afterOpener text false).pass c) rest
        | none => (t, c :: rest)
      | _, _ => (t, c :: rest)

end JsxLowering
