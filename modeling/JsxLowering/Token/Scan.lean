import JsxLowering.Text.Width
import JsxLowering.Token.Literal
import JsxLowering.Token.Trivia

/-!
# Reading a source text token by token

Which token comes next depends on where it is read: between tags text runs to the next tag or brace, after the
`=` of an attribute a string has no escapes, and a slash may open a regular expression. A `Reader` therefore
holds one token and the text around it, so that the token can be read again in another way.
-/

namespace JsxLowering

/-- The marks of the host language, a longer one before its beginnings. The closing angle bracket always stands alone
here, since it may close a tag. -/
def marks : List (List Char) :=
  ["...", "===", "!==", "**=", "<<=", "&&=", "||=", "??=", "=>", "==", "!=", "<=", "++", "--", "<<", "&&", "||",
    "??", "?.", "+=", "-=", "*=", "/=", "%=", "&=", "|=", "^=", "**", "\x7b", "\x7d", "(", ")", "[", "]", ".", ";",
    ",", "<", ">", "+", "-", "*", "/", "%", "&", "|", "^", "!", "~", "?", ":", "=", "@"].map String.toList

/-- The operators that start with a closing angle bracket, longest first. -/
def angleOperators : List (List Char) :=
  [">>>=", ">>=", ">>>", ">=", ">>", ">"].map String.toList

/-- The first of the marks that a text starts with. -/
def markToken? (candidates : List (List Char)) (text : List Char) : Option Scanned :=
  (candidates.find? (·.isPrefixOf text)).map fun m => .sound (.mark (String.ofList m)) m.length

/-- The token at the start of a text. -/
def scanToken : List Char → Scanned
  | [] => .sound .eof 0
  | text@(c :: rest) =>
    if startsWord text then wordToken text
    else if c.isDigit then numberToken text
    else
      match c, rest with
      | '"', _ => stringToken '"' rest
      | '\'', _ => stringToken '\'' rest
      | '`', _ => templateToken rest
      | '#', _ => privateNameToken rest
      | '.', d :: _ => if d.isDigit then numberToken text else (markToken? marks text).getD (.sound (.mark ".") 1)
      | '?', '.' :: d :: _ => if d.isDigit then .sound (.mark "?") 1 else .sound (.mark "?.") 2
      | '/', '*' :: _ => ⟨.eof, text.length, [.unterminatedComment]⟩
      | _, _ => (markToken? marks text).getD (.wrong (.invalidCharacter c) 1)

/-- The operator that starts with the closing angle bracket at the start of a text. -/
def scanAngle (text : List Char) : Scanned :=
  (markToken? angleOperators text).getD (.sound (.mark ">") 1)

/-- The regular expression whose opening slash a text starts with. -/
def scanRegex (text : List Char) : Scanned := regexToken (text.drop 1)

/-- The piece of a template whose opening mark a text starts with. -/
def scanTemplateRest (text : List Char) : Scanned := templateToken (text.drop 1)

/-- The token after the `=` of an attribute. -/
def scanAttributeValue : List Char → Scanned
  | '"' :: rest => attributeStringToken '"' rest
  | '\'' :: rest => attributeStringToken '\'' rest
  | text => scanToken text

/-- The token between tags: the start of a tag, an opening brace, or the text before these. -/
def scanChild : List Char → Scanned
  | [] => .sound .eof 0
  | '<' :: _ => .sound (.mark "<") 1
  | '{' :: _ => .sound (.mark "\x7b") 1
  | text =>
    let run := text.takeWhile fun c => c ≠ '<' && c ≠ '{'
    match run.find? fun c => c = '>' || c = '}' with
    | some '>' => .wrong .angleInText run.length
    | some _ => .wrong .braceInText run.length
    | none => .sound (.markupText (String.ofList run)) run.length

/-- A place in a source text. -/
structure Reader where
  /-- The current token. -/
  token : Token
  /-- The text from the current token on. -/
  here : List Char
  /-- The text after the current token. -/
  rest : List Char
  /-- The end of the token before. -/
  lastStop : Nat
  /-- Whether the text is a script. -/
  scripted : Bool
  /-- The comments that belong to tokens, by the start of the token, the latest first. -/
  comments : List (Nat × List Comment)
  /-- The first comment of all. -/
  opening : Option Comment
  /-- What is wrong with the tokens so far, the latest first. -/
  tokenFaults : List Fault
  /-- What else is wrong so far, the latest first. -/
  faults : List Fault
  /-- Where arrays and objects start that have a comma before their closing bracket. -/
  commaEnded : List Nat
  /-- Where properties start that have a default value and have not been found to be targets. -/
  defaults : List Nat

namespace Reader

/-- Moves to the given token at the start of `text`. -/
def place (r : Reader) (t : Trivia) (start : Nat) (text : List Char) (scanned : Scanned) : Reader :=
  let consumed := text.take scanned.length
  { r with
    token := ⟨scanned.kind, start, start + Text.byteWidth consumed, t.newline, t.pure, t.effectless⟩
    here := text
    rest := text.drop scanned.length
    lastStop := r.token.stop
    comments := if t.pending.isEmpty then r.comments else (start, t.pending.reverse) :: r.comments
    opening := r.opening <|> t.opening
    tokenFaults := scanned.faults.reverse ++ r.tokenFaults }

/-- Whether a line comment after the token belongs to what follows. -/
def opensLine : TokenKind → Bool
  | .mark text => text == "=" || text == "("
  | _ => false

/-- Moves to the next token, read by `scan`. -/
def advanceBy (scan : List Char → Scanned) (r : Reader) : Reader :=
  let (t, text) := passTrivia ⟨r.scripted, opensLine r.token.kind⟩ 0 (.start false) r.rest
  r.place t (r.token.stop + t.width) text (scan text)

/-- Moves to the next token. -/
def advance (r : Reader) : Reader := r.advanceBy scanToken

/-- Moves past the `=` of an attribute. -/
def advanceToValue (r : Reader) : Reader := r.advanceBy scanAttributeValue

/-- Moves to what stands directly after the current token between tags. -/
def advanceToChild (r : Reader) : Reader :=
  r.place (.start false) r.token.stop r.rest (scanChild r.rest)

/-- Reads the current token again, by `scan`. -/
def rescan (scan : List Char → Scanned) (r : Reader) : Reader :=
  let scanned := scan r.here
  { r with
    token := { r.token with
      kind := scanned.kind, stop := r.token.start + Text.byteWidth (r.here.take scanned.length) }
    rest := r.here.drop scanned.length
    tokenFaults := scanned.faults.reverse ++ r.tokenFaults }

/-- The first token of a source text whose first `offset` bytes are passed over. -/
def start (scripted : Bool) (offset : Nat) (text : List Char) : Reader :=
  let (t, rest) := passTrivia ⟨scripted, false⟩ 0 (.start true) text
  let before : Reader := {
    token := ⟨.eof, offset, offset, false, false, false⟩, here := text, rest := text, lastStop := offset
    scripted, comments := [], opening := none, tokenFaults := [], faults := [], commaEnded := [], defaults := [] }
  before.place t (offset + t.width) rest (scanToken rest)

/-- Everything that is wrong so far: with tokens, with their order, and with what was left open. -/
def allFaults (r : Reader) (last : List Fault) : List Fault :=
  r.tokenFaults.reverse ++ r.faults.reverse ++ last ++ r.defaults.map fun _ => .defaultInObject

end Reader

end JsxLowering
