import JsxLowering.Grammar.Class

/-!
# Primary expressions

Names, literals, templates, arrays, objects, functions, classes and expressions in parentheses.
-/

namespace JsxLowering.Grammar

/-! ### Arrays and arguments -/

/-- An expression, or a spread of one. -/
def spreadOrExpression (rules : Rules) : Parser Tree := do
  let start ← here
  if ← eatMark "..." then
    let argument ← rules .assignment
    nodeFrom start .spread [argument]
  else rules .assignment

/-- Keeps in mind that an array or object has a comma before its closing bracket. -/
def keepComma (start : Nat) (trailing : Bool) : Parser Unit := do
  if trailing then modify fun r => { r with commaEnded := start :: r.commaEnded }

/-- An array. -/
def parseArray (rules : Rules) : Parser Tree := do
  let start ← here
  expectMark "["
  let (elements, trailing) ← allowingIn (separated "," "]" (elementOrHole (spreadOrExpression rules)))
  keepComma start trailing
  expectMark "]"
  nodeFrom start .array elements

/-- The arguments of a call, in parentheses. -/
def parseArguments (rules : Rules) : Parser (List Tree) := do
  expectMark "("
  let (items, _) ← inBrackets (separated "," ")" (spreadOrExpression rules))
  expectMark ")"
  return items

/-! ### Objects -/

/-- A property of an object whose key has been passed and which is no method; `isName` says that the key may stand for a
binding. A default value makes sense only if the object turns out to be a target. -/
def propertyRest (rules : Rules) (start : Nat) (isName : Bool) (key : Tree) (computed : Bool) : Parser Tree := do
  match isName && !(← atMark ":"), key with
  | true, .node (.key text) span [] =>
    if ← atMark "=" then modify fun r => { r with defaults := start :: r.defaults }
    let value ← withDefault rules start (.node (.name text) span [])
    nodeFrom start (.property true false) [key, value]
  | _, _ =>
    expectMark ":"
    let value ← rules .assignment
    nodeFrom start (.property false computed) [key, value]

/-- A method of an object. The type of its receiver is the object's, so a parameter for it says nothing more. -/
def objectMethod (start : Nat) (kind : MethodKind) (key : Tree) (computed : Bool) (function : Tree) : Parser Tree :=
  nodeFrom start (.objectMethod kind computed) [key, withoutReceiver function]

/-- A getter or setter of an object, whose first word has been passed. -/
def objectAccessor (rules : Rules) (start : Nat) (kind : MethodKind) : Parser Tree := do
  let (key, computed) ← propertyKey rules
  let function ← methodFunction rules false false
  checkAccessor kind function
  objectMethod start kind key computed function

/-- A member of an object that is no spread. -/
def parseProperty (rules : Rules) : Parser Tree := do
  let start ← here
  let next ← nextToken
  let async := (← atWord "async") && modifies next && !next.newline
  if async then advance
  if !async && (← atAccessor "get") then
    advance
    objectAccessor rules start .getter
  else if !async && (← atAccessor "set") then
    advance
    objectAccessor rules start .setter
  else
    let generator ← eatMark "*"
    let k ← kind
    let c ← read
    let isName := k.isName && !(k.isWord "await" && c.awaitOperator) && !(k.isWord "yield" && c.yieldOperator)
    let (key, computed) ← propertyKey rules
    if async || generator || (← atMark "(") || (← atMark "<") then
      let function ← methodFunction rules async generator
      objectMethod start .plain key computed function
    else propertyRest rules start isName key computed

/-- A member of an object. -/
def spreadOrProperty (rules : Rules) : Parser Tree := do
  let start ← here
  if ← eatMark "..." then
    let argument ← rules .assignment
    nodeFrom start .spread [argument]
  else parseProperty rules

/-- An object. -/
def parseObject (rules : Rules) : Parser Tree := do
  let start ← here
  expectMark "\x7b"
  let (properties, trailing) ← allowingIn (separated "," "\x7d" (spreadOrProperty rules))
  keepComma start trailing
  expectMark "\x7d"
  nodeFrom start .object properties

/-! ### Templates -/

/-- The text of a template that the current token holds, between its delimiters. -/
def templateText (raw : String) (more : Bool) : Parser Tree := do
  let span := (← token).span
  return .node (.templateText raw) ⟨span.start + 1, span.stop - (if more then 2 else 1)⟩ []

/-- A template, whose first piece is the current token; `tagged` says that a function interprets it. -/
def parseTemplate (rules : Rules) (tagged : Bool) : Parser Tree :=
  templateOf .template tagged templateText (allowingIn (rules .expression))

/-! ### Parentheses -/

/-- A function that is written directly in parentheses keeps them. -/
def keepParens : Tree → Tree
  | .node (.arrow async _ effectless) span parts => .node (.arrow async true effectless) span parts
  | .node (.function (.expression _) async generator declared effectless) span parts =>
    .node (.function (.expression true) async generator declared effectless) span parts
  | tree => tree

/-- An expression in parentheses. -/
def parseParens (rules : Rules) : Parser Tree := do
  let start ← here
  expectMark "("
  let inner ← here
  let (items, trailing) ← inBrackets (separated "," ")" (rules .assignment))
  if trailing then fail .commaInParentheses
  else
    let span ← spanFrom inner
    expectMark ")"
    match items with
    | [] => fail .emptyParentheses
    | [item] => nodeFrom start .paren [keepParens item]
    | items => nodeFrom start .paren [.node .sequence span items]

/-! ### All of them -/

/-- A literal, whose token is the current one. -/
def literal? : TokenKind → Option Form
  | .regex pattern flags => some (.regex pattern flags)
  | .word "this" _ => some .this
  | .word "null" _ => some .null
  | kind => literalForm? kind

/-- A reference to a binding. -/
def nameReference : Parser Tree := do
  let start ← here
  let text ← nameText
  nodeFrom start (.name text) []

/-- A call of `import`, from its parentheses on. -/
def importCall (rules : Rules) (start : Nat) (phase : String) : Parser Tree := do
  expectMark "("
  if ← eatMark ")" then fail .importWithoutSource
  let source ← allowingIn (rules .assignment)
  let options ←
    if ← eatMark "," then do
      if ← atMark ")" then pure [] else pure [← allowingIn (rules .assignment)]
    else pure []
  let _ ← eatMark ","
  unless ← eatMark ")" do fail .importArguments
  nodeFrom start (.importCall phase) (source :: options)

/-- A keyword as a part of a property of it. -/
def keywordKey : Parser Tree := do
  let start ← here
  let text ← passWord
  nodeFrom start (.key text) []

/-- A property of the `import` keyword, or a call of it. -/
def parseImport (rules : Rules) : Parser Tree := do
  let start ← here
  let keyword ← keywordKey
  if ← eatMark "." then
    if ← atWord "meta" then
      let property ← keywordKey
      nodeFrom start .metaProperty [keyword, property]
    else if ← eatWord "source" then importCall rules start "source"
    else if ← eatWord "defer" then importCall rules start "defer"
    else fail .importMeta
  else if ← atMark "(" then importCall rules start ""
  else unexpected

/-- The receiver's superclass, which only has members and calls. -/
def parseSuper : Parser Tree := do
  let start ← here
  advance
  noteIf (!((← atMark ".") || (← atMark "[") || (← atMark "("))) .superAlone
  nodeFrom start .super []

/-- Reads a slash at the current token as the start of a regular expression. -/
def readRegex : Parser Unit := do
  if (← atMark "/") || (← atMark "/=") then
    rescan scanRegex
    unless (← get).tokenFaults.isEmpty do fail .unexpectedToken

/-- A primary expression. -/
def parsePrimary (rules : Rules) : Parser Tree := do
  let start ← here
  readRegex
  match literal? (← kind) with
  | some form =>
    advance
    nodeFrom start form []
  | none =>
    match ← kind with
    | .template _ _ _ => parseTemplate rules false
    | .mark "[" => parseArray rules
    | .mark "\x7b" => parseObject rules
    | .mark "(" => parseParens rules
    | .mark "@" =>
      let decorators ← parseDecorators rules
      parseClass rules start (.expression false) [] decorators
    | .word "class" _ => parseClass rules start (.expression false) [] (noDecorators start)
    | .word "import" _ => parseImport rules
    | .word "super" _ => parseSuper
    | .word "new" _ => rules .construction
    | _ => if ← atFunction then parseFunction rules start (.expression false) false false else nameReference

end JsxLowering.Grammar
