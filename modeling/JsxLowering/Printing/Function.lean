import JsxLowering.Printing.Expression

/-!
# Layout of functions and targets
-/

namespace JsxLowering.Printing

/-! ### Targets -/

/-- Prints an object pattern. -/
def objectPattern (span : Span) (pieces : List Piece) : Printer Unit := do
  mark span
  put "\x7b"
  unless pieces.isEmpty do
    put " "
    commaSeparated (pieces.map (·.inline))
    put " "
  put "\x7d"

/-- Prints the properties that an assignment takes out of an object. -/
def objectTarget (span : Span) (pieces : List Piece) : Printer Unit := do
  mark span
  put "\x7b"
  commaSeparated (pieces.map (·.inline))
  put "\x7d"

/-- Whether the only element of an array pattern takes what is left. -/
def onlyRest : List Piece → Bool
  | [⟨.node .rest _ _, _⟩] => true
  | _ => false

/-- Prints an array pattern. -/
def arrayPattern (span : Span) (pieces : List Piece) : Printer Unit := do
  mark span
  put "["
  if onlyRest pieces then put " "
  commaSeparated (pieces.map (·.inline))
  if endsInHole pieces then put ","
  put "]"

/-- The name that a target consists of, apart from its default value. -/
def targetName? : Tree → Option String
  | .node (.binding text) _ _ => some text
  | .node (.name text) _ _ => some text
  | .node .defaulted _ (.node (.binding text) _ _ :: _) => some text
  | .node .defaulted _ (.node (.name text) _ _ :: _) => some text
  | _ => none

/-- Whether a property of a pattern prints as its target alone: the key and the name are one. -/
def isTargetShorthand (key target : Tree) : Bool :=
  match key with
  | .node (.key text) _ _ => targetName? target == some text
  | _ => false

/-- Prints a property of a pattern. -/
def patternProperty (written computed : Bool) (k target : Piece) : Printer Unit := do
  unless !computed && (written || isTargetShorthand k.tree target.tree) do
    key k computed
    put ": "
  target.operand .comma

/-- Prints the target of what is left. -/
def rest (target : Piece) : Printer Unit := do
  put "..."
  target.operand .comma

/-- Prints a target with its default value. -/
def defaulted (target value : Piece) : Printer Unit := do
  target.operand .comma
  put " = "
  value.operand .comma

/-- Prints a type after a colon, if it is written. -/
def annotation (type : Piece) : Printer Unit := do
  if type.isPresent then
    put ": "
    type.inline

/-- Prints a target with its type. -/
def typed (sign : String) (target type : Piece) : Printer Unit := do
  target.inline
  put sign
  annotation type

/-! ### Parameters -/

/-- Prints words, each with a space after it. -/
def modifierWords (words : List String) : Printer Unit :=
  words.forM fun text => put (text ++ " ")

/-- The modifiers in the given order, without those that it does not have. -/
def ordered (order modifiers : List String) : List String := order.filter modifiers.contains

/-- The order in which the modifiers of a parameter are printed. -/
def parameterOrder : List String := ["public", "private", "protected", "override", "readonly"]

/-- Prints a parameter. -/
def parameter (span : Span) (modifiers : List String) (decorators target : Piece) : Printer Unit := do
  mark span
  decorators.inline
  modifierWords (ordered parameterOrder modifiers)
  target.inline

/-- Prints decorators, each with a space after it. -/
def decorators (pieces : List Piece) : Printer Unit :=
  pieces.forM fun piece => do
    piece.inline
    put " "

/-- Whether an expression may stand bare after the sign of a decorator. -/
def decoratesBare : Tree → Bool
  | .node (.name _) _ _ => true
  | .node (.member _) _ _ => true
  | .node (.call _ _) _ (callee :: _) => decoratesBare callee
  | _ => false

/-- Prints a decorator. -/
def decorator (span : Span) (expression : Piece) : Printer Unit := do
  mark span
  put "@"
  parensIf (!decoratesBare expression.tree) (expression.operand .lowest)

/-- Prints parameters. -/
def parameters (pieces : List Piece) : Printer Unit := do
  put "("
  commaSeparated (pieces.map (·.inline))
  put ")"

/-! ### Bodies -/

/-- The string that a statement consists of, printed. -/
def onlyString? : Tree → Option (Printer Unit)
  | .node .expressionStatement _ [expression] =>
    match expression.withoutParens with
    | .node (.string value surrogates) span _ => some (stringLiteral span value surrogates)
    | _ => none
  | _ => none

/-- Prints directives and statements. A string that comes first and is no directive gets parentheses. -/
def statements (limits : Limits) (pieces : List Piece) : Printer Unit := do
  match pieces with
  | [] => return
  | first :: rest =>
    match onlyString? first.tree with
    | some text =>
      put "("
      text
      put ");\n"
    | none => first.statementUnder limits
    rest.forM (·.statementUnder limits)

/-- Prints the body of a function. Comments before its closing brace come last. -/
def functionBody (span : Span) (limits : Limits) (pieces : List Piece) : Printer Unit := do
  let atEnd ← if span.stop > 0 then takeComments (span.stop - 1) else pure []
  let singleLine := pieces.isEmpty && atEnd.all fun c => !c.hasNewlineAround
  braces span singleLine do
    statements limits pieces
    unless atEnd.isEmpty do
      comments atEnd
      modify fun sheet => { sheet with indentAsSpace := false }

/-! ### Functions -/

/-- The comment that says that calls of a function have no effect. -/
def effectlessComment : String := "/* @__NO_SIDE_EFFECTS__ */"

/-- Prints a function from its parameters on. -/
def functionTail (limits : Limits) (typeParameters params result body : Piece) : Printer Unit := do
  typeParameters.inline
  params.inline
  annotation result
  if body.isPresent then
    put " "
    body.inlineUnder limits
  else put ";"

/-- Whether a function or class starts a statement or a default export here. -/
def startsWithKeyword : Printer Bool := do
  let sheet ← get
  return sheet.statementStart = sheet.length || sheet.defaultStart = sheet.length

/-- Whether a function or class in the given role needs parentheses here. -/
def wrapsRole (role : Role) : Printer Bool := do
  match role with
  | .expression kept => return kept || (← startsWithKeyword)
  | _ => return false

/-- Whether a function or class in the given role is an expression. -/
def isExpressionRole : Role → Bool
  | .expression _ => true
  | _ => false

/-- Prints a function with a keyword. -/
def function (span : Span) (role : Role) (async generator declared effectless : Bool) (limits : Limits)
    (identifier typeParameters params result body : Piece) : Printer Unit := do
  if effectless && isExpressionRole role then put (effectlessComment ++ " ")
  parensIf (← wrapsRole role) do
    spaceBeforeWord
    mark span
    if declared then put "declare "
    if async then put "async "
    put "function"
    if generator then put "* "
    if identifier.isPresent then identifier.inline
    functionTail limits.keepIn typeParameters params result body

/-- Prints a member that is a function: what stands before its key, the key and the function. -/
def methodOf (kind : MethodKind) (computed : Bool) (limits : Limits) (k : Piece) (mark : String) (function : Piece) :
    Printer Unit := do
  match kind with
  | .plain => pure ()
  | .getter => put "get "
  | .setter => put "set "
  match function.tree with
  | .node (.function _ async generator _ _) _ _ =>
    if async then put "async "
    if generator then put "*"
  | _ => pure ()
  key k computed
  put mark
  function.inlineUnder limits

/-- Prints a method of an object. -/
def objectMethod (span : Span) (kind : MethodKind) (computed : Bool) (limits : Limits) (k function : Piece) :
    Printer Unit := do
  mark span
  methodOf kind computed limits k "" function

/-- Whether a body is in braces. -/
def isBody : Tree → Bool
  | .node .functionBody _ _ => true
  | _ => false

/-- Prints an arrow function. -/
def arrow (span : Span) (async kept effectless : Bool) (place : Place) (typeParameters params result body : Piece) :
    Printer Unit := do
  if effectless then put (effectlessComment ++ " ")
  parensIf (kept || Level.assign ≤ place.level) do
    if async then
      markedWord span "async"
      put " "
    typeParameters.inline
    params.inline
    annotation result
    put " => "
    if isBody body.tree then body.inlineUnder place.limits
    else
      modify fun sheet => { sheet with arrowStart := sheet.length }
      body.operandUnder .comma place.limits

end JsxLowering.Printing
