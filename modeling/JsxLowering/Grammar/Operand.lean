import JsxLowering.Grammar.Primary
import JsxLowering.Operator

/-!
# Members, calls and operators

Expressions from member access and calls up to binary operators. The operators have levels; a higher level binds
tighter.
-/

namespace JsxLowering.Grammar

/-! ### Members and calls -/

/-- The key after a dot. -/
def accessKey : Parser Tree := do
  let start ← here
  match ← kind with
  | .privateName text =>
    advance
    nodeFrom start (.privateName text) []
  | _ => wordKey

/-- An index in brackets. -/
def parseIndex (rules : Rules) : Parser Tree := do
  expectMark "["
  let index ← allowingIn (rules .expression)
  expectMark "]"
  return index

/-- Whether a call, a template or the end of an expression may follow type arguments. -/
def afterTypeArguments : TokenKind → Bool
  | .mark text => !(["\x7b", "[", "<", "+", "-", "!", "~", "/", "++", "--"].contains text)
  | .template _ _ _ => true
  | .eof => true
  | .word text _ => ["extends", "implements", "in", "instanceof", "as", "satisfies", "of"].contains text
  | _ => false

/-- Type arguments after an expression, if they are such. -/
def expressionTypeArguments? (rules : Rules) : Parser (Option Tree) := do
  if (← read).types && (← atMark "<") then
    attempt (do
      let arguments ← typeArguments rules
      let t ← token
      if t.newline || t.kind.isMark "\x7b" || afterTypeArguments t.kind then return arguments else unexpected)
  else return none

/-- An object with what has been read after it; `optional` says that an access was. -/
structure Access where
  tree : Tree
  optional : Bool

/-- One step of member access without calls, if there is one. -/
def memberStep (rules : Rules) (start : Nat) (object : Access) : Parser (Access ⊕ Access) := do
  let next (form : Form) (parts : List Tree) (optional : Bool) : Parser (Access ⊕ Access) := do
    return .inl ⟨← nodeFrom start form parts, optional⟩
  match ← kind with
  | .mark "." =>
    advance
    let key ← accessKey
    next (.member false) [object.tree, key] object.optional
  | .mark "?." =>
    let following ← nextToken
    if following.kind.isMark "[" && !(← read).decorating then
      advance
      let index ← parseIndex rules
      next (.index true) [object.tree, index] true
    else
      match following.kind with
      | .word _ _ =>
        advance
        let key ← accessKey
        next (.member true) [object.tree, key] true
      | .privateName _ =>
        advance
        let key ← accessKey
        next (.member true) [object.tree, key] true
      | _ => return .inr object
  | .mark "[" =>
    if (← read).decorating then return .inr object
    let index ← parseIndex rules
    next (.index false) [object.tree, index] object.optional
  | .template _ _ _ =>
    let template ← parseTemplate rules true
    noteIf object.optional .optionalTemplate
    next .taggedTemplate [object.tree, template] object.optional
  | .mark "!" =>
    if (← read).types && !(← onNewLine) then
      advance
      next .nonNull [object.tree] object.optional
    else return .inr object
  | _ =>
    match ← expressionTypeArguments? rules with
    | some arguments => next .instantiation [object.tree, arguments] object.optional
    | none => return .inr object

/-- Member accesses without calls after an object. -/
def memberSteps (rules : Rules) (start : Nat) (object : Access) : Parser Access :=
  loop (memberStep rules start) object

/-- Whether an expression is a call of `import`. -/
def isImportCall : Tree → Bool
  | .node (.importCall _) _ _ => true
  | _ => false

/-- An expression with `new`, whose keyword is the current token. -/
def parseNew (rules : Rules) : Parser Tree := do
  let start ← here
  let keyword ← keywordKey
  if ← eatMark "." then
    if ← atWord "target" then
      let property ← keywordKey
      nodeFrom start .metaProperty [keyword, property]
    else fail .newTarget
  else
    let calleeStart ← here
    let first ← parsePrimary rules
    let callee ← memberSteps rules calleeStart ⟨first, false⟩
    let optional := callee.optional || (← atMark "?.")
    let arguments ← if ← atMark "(" then parseArguments rules else pure []
    noteIf (isImportCall callee.tree) .newImport
    noteIf optional .newOptional
    nodeFrom start (.construct false) (callee.tree :: arguments)

/-- The step from a callee or object to a call of it. -/
def callStep (rules : Rules) (start : Nat) (object : Access) : Parser (Access ⊕ Access) := do
  let object ← memberSteps rules start object
  let optional ← eatMark "?."
  if ← atMark "(" then
    let arguments ← parseArguments rules
    return .inl ⟨← nodeFrom start (.call optional false) (object.tree :: arguments), object.optional || optional⟩
  else if optional then
    match ← kind with
    | .template _ _ _ =>
      let template ← parseTemplate rules true
      note .optionalTemplate
      return .inl ⟨← nodeFrom start .taggedTemplate [object.tree, template], true⟩
    | _ => unexpected
  else return .inr object

/-- The expression that optional accesses end in. -/
def chainOf (span : Span) : Tree → Tree
  | .node .instantiation inner [tree, arguments] => .node .instantiation inner [chainOf tree.span tree, arguments]
  | .node (.member optional) inner parts => .node .chain span [.node (.member optional) inner parts]
  | .node (.index optional) inner parts => .node .chain span [.node (.index optional) inner parts]
  | .node (.call optional pure) inner parts => .node .chain span [.node (.call optional pure) inner parts]
  | .node .nonNull inner parts => .node .chain span [.node .nonNull inner parts]
  | tree => tree

/-- A primary expression with all its members and calls. -/
def parseLeftHandSide (rules : Rules) : Parser Tree := do
  let start ← here
  let first ← parsePrimary rules
  let access ← loop (callStep rules start) ⟨first, false⟩
  if access.optional then return chainOf (← spanFrom start) access.tree else return access.tree

/-! ### Prefix and postfix operators -/

/-- The prefix operators that are marks. -/
def prefixMarks : List String := ["+", "-", "~", "!"]

/-- The prefix operators that are words. -/
def prefixWords : List String := ["delete", "typeof", "void"]

/-- The prefix operator that a token is. -/
def prefixOperator? : TokenKind → Option String
  | .mark text => if prefixMarks.contains text then some text else none
  | .word text _ => if prefixWords.contains text then some text else none
  | _ => none

/-- A type in angle brackets before the expression that it is claimed of. -/
def parseAssertion (rules : Rules) : Parser Tree := do
  let start ← here
  advance
  let type ← rules .type
  expectMark ">"
  let operand ← rules .unary
  nodeFrom start .assertion [type, operand]

/-- An expression that starts with `<`. -/
def parseAngle (rules : Rules) : Parser Tree := do
  let c ← read
  if c.markup then return .markup (← rules (.markup false))
  else if c.types then parseAssertion rules
  else fail .markupNotAllowed

/-- Says of an expression that is or starts with a call that the call has no effect. -/
def markPure : Tree → Tree
  | .node (.call optional _) span parts => .node (.call optional true) span parts
  | .node (.construct _) span parts => .node (.construct true) span parts
  | .node .chain span [.node (.call optional _) inner parts] =>
    .node .chain span [.node (.call optional true) inner parts]
  | .node .paren span [inner] => .node .paren span [markPure inner]
  | .node (.binary operator) span [left, right] => .node (.binary operator) span [markPure left, right]
  | .node .conditional span [test, yes, no] => .node .conditional span [markPure test, yes, no]
  | tree => tree

/-- Whether the next token is a word or literal on the same line. -/
def atOperandSameLine : Parser Bool := do
  let next ← nextToken
  let operand := match next.kind with
    | .word _ _ => true
    | .number _ _ => true
    | .bigint _ _ => true
    | .string _ _ => true
    | _ => false
  return operand && !next.newline

/-- Whether the current token is `await` as an operator; outside asynchronous code what follows tells. -/
def atAwait : Parser Bool := do
  if !(← atWord "await") then return false
  else if (← read).awaitOperator then return true
  else atOperandSameLine

/-- An `await`, whose keyword is the current token. -/
def parseAwait (rules : Rules) : Parser Tree := do
  let start ← here
  noteIf (!(← read).awaitOperator) .awaitOutsideAsync
  advance
  let operand ← under (fun c => { c with awaitOperator := true }) (rules .unary)
  nodeFrom start .await [operand]

/-- The operator at the current token that changes its operand. -/
def updateOperator? : Parser (Option String) := do
  if ← atMark "++" then return some "++"
  else if ← atMark "--" then return some "--"
  else return none

/-- An operand with the operators before and after it that change it. -/
def parseUpdate (rules : Rules) : Parser Tree := do
  let start ← here
  match ← updateOperator? with
  | some operator =>
    advance
    let operand ← rules .unary
    let target ← takeSimpleTarget operand
    nodeFrom start (.update operator true) [target]
  | none =>
    if ← atMark "<" then parseAngle rules
    else
      let operand ← parseLeftHandSide rules
      match ← updateOperator? with
      | some operator =>
        if ← onNewLine then return operand
        else
          advance
          let target ← takeSimpleTarget operand
          nodeFrom start (.update operator false) [target]
      | none => return operand

/-- An operand with its prefix and postfix operators. -/
def parseUnary (rules : Rules) : Parser Tree := do
  let start ← here
  match prefixOperator? (← kind) with
  | some operator =>
    advance
    let pure := (← token).pure
    let operand ← rules .unary
    nodeFrom start (.unary operator) [if pure then markPure operand else operand]
  | none => if ← atAwait then parseAwait rules else parseUpdate rules

/-! ### Binary operators -/

/-- The level of a binary operator, from 1 for the loosest. -/
def operatorLevel? (operator : String) : Option Nat :=
  (operatorRank? operator).map (· + 1)

/-- The level of the comparisons, among which `as` and `satisfies` stand. -/
def comparisonLevel : Nat := 8

/-- The level of the one operator that groups to the right. -/
def powerLevel : Nat := 12

/-- Reads a closing angle bracket at the current token together with the marks that join it. -/
def readAngle : Parser Unit := do
  if ← atMark ">" then rescan scanAngle

/-- The binary operator at the current token, and its level. -/
def binaryOperator? : Parser (Option (String × Nat)) := do
  readAngle
  match ← kind with
  | .mark text => return (operatorLevel? text).map (text, ·)
  | .word text _ =>
    if text == "instanceof" || (text == "in" && (← read).inOperator) then return some (text, comparisonLevel)
    else if (text == "as" || text == "satisfies") && (← read).types && !(← onNewLine) then
      return some (text, comparisonLevel)
    else return none
  | _ => return none

/-- The type after `as` or `satisfies`. -/
def ascribedType (rules : Rules) : Parser Tree := do
  if ← atWord "const" then
    let start ← here
    advance
    let name ← nodeFrom start (.key "const") []
    nodeFrom start .typeReference [name, .absent]
  else rules .type

/-- The first operand of binary operators. A comment before it may say that it has no effect. -/
def firstOperand (rules : Rules) : Parser Tree := do
  let t ← token
  match t.kind with
  | .privateName text =>
    advance
    unless ← atWord "in" do missing "in"
    nodeFrom t.start (.privateName text) []
  | _ =>
    let operand ← parseUnary rules
    return if t.pure then markPure operand else operand

/-- Whether an expression joins truth values. -/
def isLogical : Tree → Bool
  | .node (.binary operator) _ _ => operator == "&&" || operator == "||"
  | _ => false

/-- Whether an expression is a joining of values that may be missing. -/
def isNullish : Tree → Bool
  | .node (.binary operator) _ _ => operator == "??"
  | _ => false

/-- Whether an expression has an operator before it that a power may not have. -/
def isPrefixed : Tree → Bool
  | .node (.unary _) _ _ => true
  | .node .await _ _ => true
  | _ => false

/-- Notes operands that the operator may not have without parentheses. -/
def checkOperands (operator : String) (left right : Tree) : Parser Unit := do
  noteIf (operator == "??" && (isLogical right || (isLogical left && !isNullish right))) .mixedNullish
  noteIf (operator == "**" && isPrefixed left) .ambiguousPower

/-- Joins an operand with the next one, if the operator between them binds tighter than `level`. -/
def joinStep (rules : Rules) (start level : Nat) (left : Tree) : Parser (Tree ⊕ Tree) := do
  match ← binaryOperator? with
  | none => return .inr left
  | some (operator, own) =>
    if own ≤ level then return .inr left
    else if operator == "as" || operator == "satisfies" then
      advance
      let type ← ascribedType rules
      return .inl (← nodeFrom start (.ascription operator) [left, type])
    else
      advance
      let right ← rules (.operand (if own = powerLevel then own - 1 else own))
      checkOperands operator left right
      return .inl (← nodeFrom start (.binary operator) [left, right])

/-- Operands joined by binary operators that bind tighter than `level`. -/
def parseOperand (rules : Rules) (level : Nat) : Parser Tree := do
  let start ← here
  let first ← firstOperand rules
  loop (joinStep rules start level) first

end JsxLowering.Grammar
