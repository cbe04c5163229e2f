import JsxLowering.Decimal.Numeral
import JsxLowering.Printing.Piece
import JsxLowering.Text.DoubleQuoted

/-!
# Layout of expressions
-/

namespace JsxLowering.Printing

/-! ### Literals -/

/-- Prints a string. -/
def stringLiteral (span : Span) (value : String) (surrogates : Bool) : Printer Unit := do
  mark span
  put (if surrogates then Text.doubleQuotedSurrogates value else Text.doubleQuoted value)

/-- Prints a number. A dot directly after a plain integer would be taken for a part of it. -/
def numberLiteral (span : Span) (value : Decimal.Binary64) : Printer Unit := do
  mark span
  spaceBeforeWord
  put value.numeral
  if value.plainInteger then modify fun sheet => { sheet with integerEnd := sheet.length }

/-- Whether an expression is a number too large to be written, which is printed as a name. -/
def isInfinite : Tree → Bool
  | .node (.number .infinity _) _ _ => true
  | _ => false

/-- Prints a regular expression. -/
def regexLiteral (span : Span) (pattern flags : String) : Printer Unit := do
  mark span
  let follows := match (← get).last with
    | some '/' => true
    | some '<' => (pattern.toList.take 6).map Char.toLower == "script".toList
    | _ => false
  if follows then put " "
  put ("/" ++ pattern ++ "/" ++ flags)
  modify fun sheet => { sheet with regexEnd := sheet.length }

/-- Prints the text of a template. -/
def templateText : Piece → Printer Unit
  | ⟨.node (.templateText raw) _ _, _⟩ => sourceText raw.toList
  | _ => return

/-- Prints the expressions of a template, each with the text after it. -/
def templateRest : List Piece → Printer Unit
  | expression :: text :: rest => do
    put "$\x7b"
    expression.operand .lowest
    put "\x7d"
    mark text.span
    templateText text
    templateRest rest
  | _ => return

/-- Prints a template. -/
def template (span : Span) (pieces : List Piece) : Printer Unit := do
  mark span
  put "`"
  match pieces with
  | [] => pure ()
  | text :: rest =>
    templateText text
    templateRest rest
  put "`"

/-! ### Arrays and objects -/

/-- Prints the items of a list, each on a line of its own. -/
def linesOf (items : List (Printer Unit)) : Printer Unit := do
  match items with
  | [] => return
  | first :: rest =>
    newline
    indentation
    first
    rest.forM fun item => do
      put ","
      newline
      indentation
      item

/-- Prints items between brackets, each on a line of its own. -/
def onLines (items : List (Printer Unit)) : Printer Unit := do
  indented (linesOf items)
  newline
  indentation

/-- Whether the last element is left out. -/
def endsInHole (pieces : List Piece) : Bool :=
  match pieces.getLast? with
  | some ⟨.node .hole _ _, _⟩ => true
  | _ => false

/-- Prints an array. -/
def array (span : Span) (pieces : List Piece) : Printer Unit := do
  mark span
  put "["
  let items := pieces.map fun piece => piece.operand .comma
  if pieces.length > 2 then
    indented do
      linesOf items
      if endsInHole pieces then put ","
    newline
    indentation
  else
    commaSeparated items
    if endsInHole pieces then put ","
  put "]"
  markEnd span

/-- Whether an object or a destructuring starts a statement or the body of an arrow function here. -/
def startsWithBrace : Printer Bool := do
  let sheet ← get
  return sheet.statementStart = sheet.length || sheet.arrowStart = sheet.length

/-- Prints an object. With comments before it, it is put in parentheses together with them. -/
def object (span : Span) (limits : Limits) (pieces : List Piece) : Printer Unit := do
  let commented ← hasComments span.start
  parensIf (commented || (← startsWithBrace)) do
    if commented then
      commentsAt span.start
      indentation
    mark span
    put "\x7b"
    let items := pieces.map (·.inlineUnder limits)
    match items with
    | [] => pure ()
    | [item] =>
      put " "
      item
      put " "
    | items => onLines items
    put "\x7d"
    markEnd span

/-- Prints a key, in brackets if it is computed. -/
def key (piece : Piece) (computed : Bool) : Printer Unit := do
  if computed then
    put "["
    piece.operand .comma
    put "]"
  else piece.operand .comma

/-- Whether a property prints as its value alone: the key and the value are one name. The key `__proto__` means something
else when it stands alone, so there the source decides. -/
def isShorthand (written : Bool) (key value : Tree) : Bool :=
  match key with
  | .node (.key text) _ _ =>
    if text == "__proto__" then written
    else
      match value.withoutParens with
      | .node (.name other) _ _ => text == other
      | _ => false
  | _ => false

/-- Whether an expression is a function with a keyword. -/
def isFunction : Tree → Bool
  | .node (.function _ _ _ _ _) _ _ => true
  | _ => false

/-- Prints a property. -/
def property (span : Span) (written computed : Bool) (k value : Piece) : Printer Unit := do
  if isFunction value.tree then mark span
  unless !computed && isShorthand written k.tree value.tree do
    key k (computed || isInfinite k.tree)
    put ": "
  value.operand .comma

/-- Prints a spread. -/
def spread (span : Span) (argument : Piece) : Printer Unit := do
  mark span
  put "..."
  argument.operand .comma

/-! ### Calls and members -/

/-- The comment that says that a call has no effect. -/
def pureComment : String := "/* @__PURE__ */ "

/-- Prints arguments, each with the comments that belong to it before it. -/
def commentedArguments (leading : Bool) : List Piece → Printer Unit
  | [] => return
  | piece :: rest => do
    unless leading do put ","
    if ← commentsOnLines piece.span.start then indentation
    else
      newline
      indentation
    piece.operand .comma
    commentedArguments false rest

/-- Prints the arguments of a call with the given span. -/
def callArguments (span : Span) (pieces : List Piece) : Printer Unit := do
  put "("
  let closing ← hasComments (span.stop - 1)
  let commented ← pieces.anyM fun piece => hasComments piece.span.start
  if closing || commented then
    indented do
      commentedArguments true pieces
      unless ← commentsOnLines (span.stop - 1) do newline
    indentation
  else commaSeparated (pieces.map fun piece => piece.operand .comma)
  put ")"

/-- What starts at the current place starts there again after what is printed now. -/
def keepingStart (p : Printer Unit) : Printer Unit := do
  let sheet ← get
  p
  if sheet.defaultStart = sheet.length then
    modify fun after => { after with defaultStart := after.length }
  else if sheet.statementStart = sheet.length then
    modify fun after => { after with statementStart := after.length }

/-- Prints a call. -/
def call (span : Span) (optional isPure : Bool) (place : Place) (callee : Piece) (pieces : List Piece) :
    Printer Unit := do
  let level := place.level
  let wrapped := Level.construct ≤ level || place.limits.noCall || (isPure && Level.after ≤ level)
  keepingStart do
    if wrapped then put "("
    if isPure then
      mark span
      put pureComment
  callee.operand .after
  if optional then put "?."
  callArguments span pieces
  markEnd span
  if wrapped then put ")"

/-- Prints an expression with `new`. -/
def construct (span : Span) (isPure : Bool) (place : Place) (callee : Piece) (pieces : List Piece) :
    Printer Unit := do
  let level := place.level
  parensIf (Level.call ≤ level || (isPure && Level.after ≤ level)) do
    if isPure then put pureComment
    markedWord span "new"
    put " "
    callee.operandUnder .construct { noCall := true }
    callArguments span pieces
    markEnd span

/-- Prints the source of an import and, if any, its options. Comments put them on lines of their own; comments before the
options are not printed. -/
def importArguments (span : Span) (pieces : List Piece) : Printer Unit := do
  let closing ← hasComments (span.stop - 1)
  let commented ← pieces.anyM fun piece => hasComments piece.span.start
  if closing || commented then
    indented do
      match pieces with
      | [] => pure ()
      | source :: options =>
        unless ← commentsOnLines source.span.start do newline
        indentation
        source.operand .comma
        options.forM fun piece => do
          put ","
          newline
          indentation
          piece.operand .comma
      unless ← commentsOnLines (span.stop - 1) do newline
  else commaSeparated (pieces.map fun piece => piece.operand .comma)

/-- Prints a call of `import`. -/
def importCall (span : Span) (phase : String) (place : Place) (pieces : List Piece) : Printer Unit := do
  parensIf (Level.construct ≤ place.level || place.limits.noCall) do
    markedWord span "import"
    if phase != "" then put ("." ++ phase)
    put "("
    importArguments span pieces
    put ")"

/-- Whether a key is a private name. -/
def isPrivate : Tree → Bool
  | .node (.privateName _) _ _ => true
  | _ => false

/-- Prints a member of an object. -/
def member (optional : Bool) (place : Place) (object k : Piece) : Printer Unit := do
  object.operandUnder .after place.limits.keepCall
  if optional then put "?."
  else
    let sheet ← get
    if sheet.integerEnd = sheet.length && !isPrivate k.tree then put " "
    put "."
  k.inline

/-- Whether an expression is the given name. -/
def isName (text : String) : Tree → Bool
  | .node (.name other) _ _ => text == other
  | _ => false

/-- Prints an indexed element of an object. The name `let` with an index would be taken for a declaration. -/
def index (optional : Bool) (place : Place) (object i : Piece) : Printer Unit := do
  parensIf (isName "let" object.tree.withoutTypes) (object.operandUnder .after place.limits.keepCall)
  if optional then put "?."
  put "["
  i.operand .lowest
  put "]"

/-! ### Operators -/

/-- Prints an operand with an operator before it. -/
def unary (span : Span) (operator : String) (place : Place) (operand : Piece) : Printer Unit :=
  parensIf (Level.before ≤ place.level) do
    if operator.all Char.isAlpha then
      markedWord span operator
      put " "
    else
      spaceBeforeOperator operator
      mark span
      prefixOperator operator
    if operator == "delete" && isInfinite operand.tree then
      put "(0, "
      operand.operandUnder .power place.limits
      put ")"
    else operand.operandUnder .power place.limits

/-- Prints an operand that is counted up or down. -/
def update (span : Span) (operator : String) (before : Bool) (place : Place) (operand : Piece) : Printer Unit :=
  parensIf ((if before then Level.before else Level.after) ≤ place.level) do
    spaceBeforeOperator operator
    mark span
    if before then
      prefixOperator operator
      operand.operandUnder .before place.limits
    else
      operand.operandUnder .after place.limits
      put operator

/-- Whether an expression is joined by `&&` or `||`. -/
def isLogical (tree : Tree) : Bool :=
  match tree.withoutParens with
  | .node (.binary operator) _ _ => operator == "&&" || operator == "||"
  | _ => false

/-- Whether an expression starts with a prefix operator. -/
def isPrefixed (tree : Tree) : Bool :=
  match tree.withoutParens with
  | .node (.unary _) _ _ => true
  | .node .await _ _ => true
  | _ => false

/-- The level of the left operand of a binary operator. -/
def leftLevel (operator : String) (left : Tree) : Level :=
  if operator == "??" && isLogical left then .before
  else if operator == "**" then (if isPrefixed left then .call else .power)
  else Level.ofOperator operator - 1

/-- The level of the right operand of a binary operator. -/
def rightLevel (operator : String) (right : Tree) : Level :=
  if operator == "??" && isLogical right then .before
  else if ["??", "||", "&&", "**"].contains operator then Level.ofOperator operator - 1
  else Level.ofOperator operator

/-- Prints a test whether an object has a private member. -/
def privateTest (place : Place) (left right : Piece) : Printer Unit :=
  parensIf (Level.compare ≤ place.level) do
    left.inline
    put " in "
    right.operandUnder .equality { noIn := true }

/-- Prints two operands with an operator between them. -/
def infixed (operator : String) (place : Place) (left right : Piece) : Printer Unit := do
  let wrapped := Level.ofOperator operator ≤ place.level || (operator == "in" && place.limits.noIn)
  let limits := if wrapped then { place.limits with noIn := false } else place.limits
  parensIf wrapped do
    left.operandUnder (leftLevel operator left.tree) limits
    put (" " ++ operator ++ " ")
    right.operandUnder (rightLevel operator right.tree) limits.keepIn

/-- Prints a binary operator with its operands. -/
def binary (operator : String) (place : Place) (left right : Piece) : Printer Unit :=
  if isPrivate left.tree then privateTest place left right else infixed operator place left right

/-- Prints a conditional expression. -/
def conditional (place : Place) (test yes no : Piece) : Printer Unit := do
  let wrapped := Level.conditional ≤ place.level
  let limits := if wrapped then Limits.none else place.limits.keepIn
  parensIf wrapped do
    test.operandUnder .conditional limits
    put " ? "
    yes.operand .yields
    put " : "
    no.operandUnder .yields limits

/-- Whether the target of an assignment is an object that is taken apart. -/
def isObjectTarget : Tree → Bool
  | .node .objectTarget _ _ => true
  | _ => false

/-- Prints an assignment. -/
def assignment (span : Span) (operator : String) (place : Place) (target value : Piece) : Printer Unit := do
  let opensBrace := isObjectTarget target.tree && (← startsWithBrace)
  parensIf (opensBrace || Level.assign ≤ place.level) do
    mark span
    target.operand .comma
    put (" " ++ operator ++ " ")
    value.operandUnder .comma place.limits

/-- Prints a sequence. -/
def sequence (place : Place) (pieces : List Piece) : Printer Unit :=
  parensIf (Level.comma ≤ place.level)
    (commaSeparated (pieces.map fun piece => piece.operandUnder .lowest place.limits.keepIn))

/-- Prints a keyword with an operand. -/
def keywordOperand (span : Span) (keyword : String) (own : Level) (inner : Level) (place : Place)
    (operand : List Piece) : Printer Unit :=
  parensIf (own ≤ place.level) do
    markedWord span keyword
    operand.forM fun piece => do
      put " "
      piece.operandUnder inner place.limits

/-! ### Types in expressions -/

/-- Prints an expression with a claim about its type. -/
def ascription (keyword : String) (place : Place) (expression type : Piece) : Printer Unit :=
  parensIf (Level.shift ≤ place.level) do
    expression.operandUnder .power place.limits
    put (" " ++ keyword ++ " ")
    type.inline

/-- Whether an expression is written in parentheses. -/
def isParenthesized : Tree → Bool
  | .node .paren _ _ => true
  | _ => false

/-- Prints an expression that is said not to be empty. -/
def nonNull (place : Place) (expression : Piece) : Printer Unit := do
  parensIf (isParenthesized expression.tree) (expression.print place)
  put "!"

/-- Prints an expression with its type before it. -/
def assertion (place : Place) (type expression : Piece) : Printer Unit := do
  put "(<"
  type.inline
  put ">"
  expression.operandUnder .call place.limits
  put ")"

/-- Prints an expression with type arguments. -/
def instantiation (place : Place) (expression arguments : Piece) : Printer Unit := do
  expression.print place
  arguments.inline

end JsxLowering.Printing
