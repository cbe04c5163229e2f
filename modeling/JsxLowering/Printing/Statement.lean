import JsxLowering.Printing.Function

/-!
# Layout of statements
-/

namespace JsxLowering.Printing

/-- What comes before a statement: its comments and the indentation. -/
def opening (span : Span) : Printer Unit := do
  commentsAt span.start
  mark span
  indentation

/-- What comes before a declaration that notes by itself where it comes from. -/
def declarationOpening (span : Span) : Printer Unit := do
  commentsAt span.start
  indentation

/-- What comes before a declaration of a type: the indentation and its comments. -/
def typeOpening (span : Span) : Printer Unit := do
  indentation
  commentsAt span.start

/-- Ends a simple statement. -/
def endStatement : Printer Unit := put ";\n"

/-- Prints a statement that is one line, from its keyword on. -/
def simple (span : Span) (text : Printer Unit) : Printer Unit := do
  opening span
  text
  endStatement

/-! ### Directives and expressions -/

/-- Whether a directive is put in single quotes: its first quote is a double one. -/
def needsSingleQuotes : List Char → Bool
  | [] => false
  | '\\' :: _ :: rest => needsSingleQuotes rest
  | '"' :: _ => true
  | '\'' :: _ => false
  | _ :: rest => needsSingleQuotes rest

/-- Prints a directive. -/
def directive (span : Span) (raw : String) : Printer Unit := do
  commentsAt span.start
  mark span
  indentation
  let quote := if needsSingleQuotes raw.toList then "'" else "\""
  put (quote ++ raw ++ quote)
  endStatement

/-- Prints an expression as a statement. -/
def expressionStatement (span : Span) (expression : Piece) : Printer Unit := do
  commentsAt span.start
  let sheet ← get
  if sheet.indent > 0 || sheet.indentAsSpace then
    mark span
    indentation
  modify fun sheet => { sheet with statementStart := sheet.length }
  expression.operand .lowest
  endStatement

/-! ### Blocks and bodies -/

/-- Prints statements in braces. -/
def block (span : Span) (limits : Limits) (pieces : List Piece) : Printer Unit :=
  braces span pieces.isEmpty (pieces.forM (·.statementUnder limits))

/-- Whether a statement is a block. -/
def isBlock : Tree → Bool
  | .node .block _ _ => true
  | _ => false

/-- Whether a statement is empty. -/
def isEmptyStatement : Tree → Bool
  | .node .empty _ _ => true
  | _ => false

/-- Prints the body of a loop or branch, on the line of its head. -/
def body (limits : Limits) (piece : Piece) : Printer Unit := do
  if isBlock piece.tree then
    put " "
    piece.inlineUnder limits
    newline
  else if isEmptyStatement piece.tree then endStatement
  else
    indentAsSpace
    piece.statementUnder limits

/-- Whether an `else` after a statement would be taken for a part of it. -/
def takesElse : Tree → Bool
  | .node .branch _ [_, _] => true
  | .node .branch _ [_, _, alternate] => takesElse alternate
  | .node .forLoop _ [_, _, _, inner] => takesElse inner
  | .node .forIn _ [_, _, inner] => takesElse inner
  | .node (.forOf _) _ [_, _, inner] => takesElse inner
  | .node .whileLoop _ [_, inner] => takesElse inner
  | .node .withScope _ [_, inner] => takesElse inner
  | .node .labeled _ [_, inner] => takesElse inner
  | _ => false

/-- Whether a statement is a branch. -/
def isBranch : Tree → Bool
  | .node .branch _ _ => true
  | _ => false

/-- Prints a branch that is not taken otherwise. -/
def alternate (limits : Limits) (piece : Piece) : Printer Unit := do
  word "else"
  if isBranch piece.tree then
    put " "
    piece.inlineUnder limits
  else body limits piece

/-- Prints a branch from its keyword on. -/
def branch (limits : Limits) (test consequent : Piece) (other : Option Piece) : Printer Unit := do
  word "if"
  put " ("
  test.operand .lowest
  put ")"
  let inBraces := isBlock consequent.tree || takesElse consequent.tree
  if isBlock consequent.tree then
    put " "
    consequent.inlineUnder limits
  else if takesElse consequent.tree then
    put " "
    braces consequent.span false (consequent.statementUnder limits)
  else body limits consequent
  match other with
  | none => if inBraces then newline
  | some piece =>
    if inBraces then put " " else indentation
    alternate limits piece

/-! ### Loops -/

/-- Prints a loop with a counter. -/
def forLoop (limits : Limits) (init test update inner : Piece) : Printer Unit := do
  word "for"
  put " ("
  match init.tree with
  | .node (.variableDeclaration _ _) _ _ => init.inlineUnder { noIn := true }
  | _ => init.operandUnder .lowest { noIn := true }
  put ";"
  if test.isPresent then
    put " "
    test.operand .lowest
  put ";"
  if update.isPresent then
    put " "
    update.operand .lowest
  put ")"
  body limits inner

/-- Prints what a loop over members or elements assigns to. The name `async` before `of` would be taken for the start of an
arrow function. -/
def eachTarget (limits : Limits) (left : Piece) : Printer Unit :=
  match left.tree with
  | .node (.variableDeclaration _ _) _ _ => left.inlineUnder limits
  | tree => parensIf (isName "async" tree) (left.operand .comma)

/-- Prints a loop over the members or elements of something. -/
def eachLoop (keyword joint : String) (level : Level) (limits : Limits) (left right inner : Piece) : Printer Unit := do
  word keyword
  put " ("
  eachTarget limits left
  put (" " ++ joint ++ " ")
  right.operand level
  put ")"
  body limits inner

/-- Prints a loop that tests last. -/
def doWhile (limits : Limits) (inner test : Piece) : Printer Unit := do
  word "do"
  if isBlock inner.tree then
    put " "
    inner.inlineUnder limits
    put " "
  else
    newline
    indented (inner.statementUnder limits)
    indentation
  put "while ("
  test.operand .lowest
  put ");\n"

/-- Prints an expression in parentheses and a body, after a keyword with the opening parenthesis. -/
def headed (head : String) (limits : Limits) (test inner : Piece) : Printer Unit := do
  word head
  test.operand .lowest
  put ")"
  body limits inner

/-- Prints a keyword with an expression after it. -/
def keyworded (keyword : String) (pieces : List Piece) : Printer Unit := do
  word keyword
  pieces.forM fun piece => do
    put " "
    piece.operand .lowest

/-- Prints a statement after a label. -/
def labeled (limits : Limits) (label inner : Piece) : Printer Unit := do
  label.inline
  put ":"
  body limits inner

/-! ### Branching on values and errors -/

/-- Prints a case. -/
def switchCase (span : Span) (limits : Limits) (test : Piece) (pieces : List Piece) : Printer Unit := do
  commentsAt span.start
  indentation
  mark span
  if test.isPresent then
    put "case "
    test.operand .lowest
  else put "default"
  put ":"
  match pieces with
  | [piece] => body limits piece
  | pieces =>
    newline
    indented (pieces.forM (·.statementUnder limits))

/-- Prints a branch on values. -/
def switch (span : Span) (limits : Limits) (discriminant : Piece) (cases : List Piece) : Printer Unit := do
  word "switch"
  put " ("
  discriminant.operand .lowest
  put ") "
  braces span cases.isEmpty (cases.forM (·.inlineUnder limits))
  newline

/-- Prints a handler of errors. -/
def catchClause (span : Span) (limits : Limits) (param inner : Piece) : Printer Unit := do
  put " "
  commentsAt span.start
  put "catch"
  if param.isPresent then
    put " ("
    param.inline
    put ")"
  put " "
  if (← get).indentAsSpace then indentation
  inner.inlineUnder limits

/-- Prints a block with its handlers. -/
def tryBlock (limits : Limits) (inner handler finalizer : Piece) : Printer Unit := do
  word "try"
  put " "
  inner.inlineUnder limits
  handler.inlineUnder limits
  if finalizer.isPresent then
    put " finally "
    finalizer.inlineUnder limits
  newline

/-! ### Variables -/

/-- Prints a declaration of variables from its keyword on. -/
def variableDeclaration (span : Span) (keyword : String) (declared : Bool) (limits : Limits) (pieces : List Piece) :
    Printer Unit := do
  spaceBeforeWord
  mark span
  if declared then put "declare "
  put (keyword ++ " ")
  commaSeparated (pieces.map fun piece => piece.inlineUnder limits)

/-- Prints a declarator. -/
def declarator (limits : Limits) (target : Piece) (value : Option Piece) : Printer Unit := do
  target.inline
  match value with
  | none => return
  | some piece =>
    put " = "
    piece.operandUnder .comma limits

end JsxLowering.Printing
