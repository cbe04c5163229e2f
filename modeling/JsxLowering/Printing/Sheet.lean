import JsxLowering.Comment
import JsxLowering.Text.DoubleQuoted
import JsxLowering.Text.Name
import JsxLowering.Text.Width

/-!
# The sheet that is printed on

A sheet holds the text printed so far and what later text depends on: the indentation, where the last statement,
arrow body or default export began, which operator or number stands last, and the comments that wait to be
printed. It also notes which places of the source the printed text comes from.
-/

namespace JsxLowering.Printing

/-- What a place in the printed text comes from. -/
inductive Origin where
  /-- The start of a span. -/
  | start (span : Span)
  /-- The start of a span that is printed as a name. -/
  | named (span : Span) (name : String)
  /-- The end of a span. -/
  | stop (span : Span)
  deriving DecidableEq, Repr

/-- A place in the printed text, by line and column in UTF-16 units, and what it comes from. -/
structure Event where
  line : Nat
  column : Nat
  origin : Origin
  deriving DecidableEq, Repr

/-- How a program is printed. -/
structure Style where
  /-- One step of indentation. -/
  indentUnit : String
  /-- Whether a single type parameter needs a comma to be told from a tag. -/
  markup : Bool

/-- A sheet. -/
structure Sheet where
  text : String
  /-- The last character. -/
  last : Option Char
  /-- The number of characters. -/
  length : Nat
  /-- The line that is printed on. -/
  line : Nat
  /-- The UTF-16 units on that line. -/
  column : Nat
  /-- The steps of indentation. -/
  indent : Nat
  /-- Whether the next indentation is a single space instead. -/
  indentAsSpace : Bool
  /-- Where the last expression statement began. -/
  statementStart : Nat
  /-- Where the last body of an arrow function began. -/
  arrowStart : Nat
  /-- Where the last default export began. -/
  defaultStart : Nat
  /-- The last prefix or postfix operator, and where it ended. -/
  operator : String
  operatorEnd : Nat
  /-- Where the last number ended that a dot could be taken for a part of. -/
  integerEnd : Nat
  /-- Where the last regular expression ended. -/
  regexEnd : Nat
  /-- The comments that wait for what starts at an offset. -/
  comments : List (Nat × List Comment)
  /-- What the places come from, the latest first. -/
  events : List Event

namespace Sheet

/-- An empty sheet. -/
def blank (comments : List (Nat × List Comment)) : Sheet where
  text := ""
  last := none
  length := 0
  line := 0
  column := 0
  indent := 0
  indentAsSpace := false
  statementStart := 0
  arrowStart := 0
  defaultStart := 0
  operator := ""
  operatorEnd := 0
  integerEnd := 0
  regexEnd := 0
  comments := comments
  events := []

/-- The line and column after a character. -/
def step (place : Nat × Nat) (c : Char) : Nat × Nat :=
  if c = '\n' then (place.1 + 1, 0) else (place.1, place.2 + Text.unitWidth c)

/-- Appends a text. -/
def append (sheet : Sheet) (text : String) : Sheet :=
  let chars := text.toList
  let (line, column) := chars.foldl step (sheet.line, sheet.column)
  { sheet with
    text := sheet.text ++ text
    last := chars.getLast?.or sheet.last
    length := sheet.length + chars.length
    line, column }

end Sheet

/-- A printer. -/
abbrev Printer := ReaderT Style (StateM Sheet)

/-- Prints a text. -/
def put (text : String) : Printer Unit := modify fun sheet => sheet.append text

/-- The length of what has been printed. -/
def length : Printer Nat := return (← get).length

/-- Starts a new line. -/
def newline : Printer Unit := put "\n"

/-- Prints the indentation of a line. -/
def indentation : Printer Unit := do
  let sheet ← get
  if sheet.indentAsSpace then
    modify fun sheet => { sheet with indentAsSpace := false }
    put " "
  else put (String.join (List.replicate sheet.indent (← read).indentUnit))

/-- Prints one step further to the right. -/
def indented {α : Type} (p : Printer α) : Printer α := do
  modify fun sheet => { sheet with indent := sheet.indent + 1 }
  let a ← p
  modify fun sheet => { sheet with indent := sheet.indent - 1 }
  return a

/-- Makes the next indentation a single space. -/
def indentAsSpace : Printer Unit := modify fun sheet => { sheet with indentAsSpace := true }

/-- Prints in parentheses if needed. -/
def parensIf (needed : Bool) (p : Printer Unit) : Printer Unit := do
  if needed then put "("
  p
  if needed then put ")"

/-- Notes where the printed text comes from. -/
def noteOrigin (origin : Origin) : Printer Unit :=
  modify fun sheet => { sheet with events := ⟨sheet.line, sheet.column, origin⟩ :: sheet.events }

/-- Notes that what follows comes from the start of a span. -/
def mark (span : Span) : Printer Unit := noteOrigin (.start span)

/-- Notes that what stands before comes from the text up to the end of a span. -/
def markEnd (span : Span) : Printer Unit := noteOrigin (.stop span)

/-- Prints a space if the next word would run into the last one or into the flags of a regular expression. -/
def spaceBeforeWord : Printer Unit := do
  let sheet ← get
  match sheet.last with
  | none => return
  | some c => if Text.continuesIdentifier c || sheet.regexEnd = sheet.length then put " "

/-- Prints a word. -/
def word (text : String) : Printer Unit := do
  spaceBeforeWord
  put text

/-- Prints a word that comes from the start of a span. -/
def markedWord (span : Span) (text : String) : Printer Unit := do
  spaceBeforeWord
  mark span
  put text

/-- Prints a name. -/
def name (span : Span) (text : String) : Printer Unit := do
  spaceBeforeWord
  noteOrigin (.named span text)
  put text

/-- Whether a space has to stand between two operators. -/
def operatorsClash (before after : String) : Bool :=
  (before == "+" && (after == "+" || after == "++")) || (before == "-" && (after == "-" || after == "--"))

/-- Prints a space if the next operator would run into the last one. -/
def spaceBeforeOperator (operator : String) : Printer Unit := do
  let sheet ← get
  if sheet.operatorEnd = sheet.length && operatorsClash sheet.operator operator then put " "

/-- Prints an operator that stands directly before its operand. -/
def prefixOperator (operator : String) : Printer Unit := do
  put operator
  modify fun sheet => { sheet with operator, operatorEnd := sheet.length }

/-- Prints items with a comma and a space between them. -/
def commaSeparated : List (Printer Unit) → Printer Unit
  | [] => return
  | [item] => item
  | item :: rest => do
    item
    put ", "
    commaSeparated rest

/-- Prints in braces that come from a span, on one line or with the contents indented on lines of their own. -/
def braces (span : Span) (singleLine : Bool) (contents : Printer Unit) : Printer Unit := do
  mark span
  put "\x7b"
  if singleLine then contents
  else
    newline
    indented contents
    indentation
  put "\x7d"

/-! ### Comments -/

/-- The comments that wait at an offset; they wait no longer. -/
def takeComments (offset : Nat) : Printer (List Comment) := do
  let sheet ← get
  match sheet.comments.find? (·.1 == offset) with
  | some (_, comments) =>
    set { sheet with comments := sheet.comments.filter (·.1 != offset) }
    return comments
  | none => return []

/-- Whether comments wait at an offset. -/
def hasComments (offset : Nat) : Printer Bool := return (← get).comments.any (·.1 == offset)

/-- The lines of a comment. -/
def commentLines : List Char → List (List Char)
  | [] => [[]]
  | '\r' :: '\n' :: rest => [] :: commentLines rest
  | c :: rest =>
    if Text.endsLine c then [] :: commentLines rest
    else
      match commentLines rest with
      | [] => [[c]]
      | line :: more => (c :: line) :: more

/-- Prints a text of the source, with closing script tags broken up. -/
def sourceText (text : List Char) : Printer Unit := put (String.ofList (Text.breakScript text))

/-- Whether a character at the start of a line of a comment is left out. -/
def isMargin (c : Char) : Bool := (Text.isBlank c && c != '\uFEFF') || c == '\u0085'

/-- Prints a line of a comment that has several. -/
def commentLine (line : List Char) : Printer Unit := do
  unless "/*".toList.isPrefixOf line do indentation
  sourceText (line.dropWhile isMargin)
  unless "*/".toList.isSuffixOf line do newline

/-- Prints a comment. -/
def comment (c : Comment) : Printer Unit :=
  if c.isMultiline then (commentLines c.text).forM commentLine else sourceText c.text

/-- Prints comments after the first one of a run. -/
def moreComments (previous : Comment) : List Comment → Printer Unit
  | [] => if previous.isLine || previous.newlineAfter then newline else indentAsSpace
  | c :: rest => do
    if previous.isLine || previous.newlineAfter then
      newline
      indentation
    else if c.annotation == .legal then newline
    else put " "
    comment c
    moreComments c rest

/-- Prints a run of comments before what they belong to. -/
def comments : List Comment → Printer Unit
  | [] => return
  | c :: rest => do
    if c.newlineBefore then
      match (← get).last with
      | none => pure ()
      | some '\n' => indentation
      | some '\t' => pure ()
      | some _ =>
        newline
        indentation
    else indentation
    comment c
    moreComments c rest

/-- Prints the comments that wait at an offset, before what starts there. -/
def commentsAt (offset : Nat) : Printer Unit := do
  comments (← takeComments offset)

/-- Prints the comments that wait at an offset, each on a line of its own. Answers whether there were any. -/
def commentsOnLines (offset : Nat) : Printer Bool := do
  match ← takeComments offset with
  | [] => return false
  | found =>
    found.forM fun c => do
      newline
      indentation
      comment c
    newline
    return true

end JsxLowering.Printing
