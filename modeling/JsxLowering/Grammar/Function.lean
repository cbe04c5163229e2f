import JsxLowering.Grammar.Pattern

/-!
# Functions

Parameters, function bodies with their directives, function declarations and expressions, methods and arrow
functions. The first tokens tell whether an arrow function starts, does not start, or may start; in the last case its
head is tried, and once its `=>` is read there is no way back.
-/

namespace JsxLowering.Grammar

/-! ### Parameters -/

/-- The decorators before a declaration, a member or a parameter. -/
def parseDecorators (rules : Rules) : Parser Tree := do
  let start ← here
  let items ← many (do return !(← atMark "@")) (do
    let start ← here
    advance
    let expression ← under (fun c => { c with decorating := true }) (rules .leftHandSide)
    nodeFrom start .decorator [expression])
  if items.isEmpty then return .node .decorators ⟨start, start⟩ [] else nodeFrom start .decorators items

/-- No decorators, at the given place. -/
def noDecorators (start : Nat) : Tree := .node .decorators ⟨start, start⟩ []

/-- The modifiers that make a field of a parameter. Without types each of them is a fault. -/
def parameterModifiers : Parser (List String) := do
  let modifiers ← many (do
    let next ← nextToken
    let binds := match next.kind with
      | .word _ _ => true
      | .mark text => text == "\x7b" || text == "["
      | _ => false
    let modifier ← atAnyWord ["public", "private", "protected", "readonly", "override"]
    return !(modifier && binds))
    passWord
  unless (← read).types do
    modifiers.forM fun _ => note .foreignModifier
  return modifiers

/-- The parameter that takes what is left. -/
def restParameter (rules : Rules) : Parser Tree := do
  let start ← here
  expectMark "..."
  let targetStart ← here
  let target ← rules .target
  let typed := (← read).types
  if typed && (← atMark "?") then
    note .optionalRest
    advance
  let type ← typeAnnotation? rules
  let target ← if type.isPresent then nodeFrom targetStart (.typed "") [target, type] else pure target
  noteRestDefault rules
  nodeFrom start .rest [target]

/-- A parameter. -/
def parseParameter (rules : Rules) : Parser Tree := do
  let start ← here
  let decorators ← parseDecorators rules
  let modifiers ← parameterModifiers
  if ← atMark "..." then restParameter rules
  else if (← read).types && (← atWord "this") then receiverParameter rules
  else
    let targetStart ← here
    let target ← typedTarget rules "?"
    let target ← withDefault rules targetStart target
    nodeFrom start (.parameter modifiers) [decorators, target]

/-- The parameters of a function, in parentheses. -/
def parseParameters (rules : Rules) : Parser Tree := do
  let start ← here
  expectMark "("
  let items ← separatedWithRest ")" .restParameterNotLast (atMark "...") (parseParameter rules)
  expectMark ")"
  nodeFrom start .parameters items

/-- Whether a parameter stands for the receiver. -/
def isReceiver : Tree → Bool
  | .node (.typeKeyword _) _ _ => true
  | .node (.typed _) _ (.node (.typeKeyword _) _ _ :: _) => true
  | _ => false

/-- A function without the parameter that stands for the receiver. -/
def withoutReceiver : Tree → Tree
  | .node (.function role async generator declared effectless) span
      [name, typeParameters, .node .parameters inner parameters, result, body] =>
    .node (.function role async generator declared effectless) span
      [name, typeParameters, .node .parameters inner (parameters.filter fun p => !isReceiver p), result, body]
  | tree => tree

/-! ### Bodies -/

/-- The text of a directive that a statement is, where directives may stand. -/
def directive? (text : List Char) : Tree → Option Tree
  | .node .expressionStatement span [.node (.string _ _) inner _] =>
    some (.node (.directive (String.ofList (Text.takeBytes (inner.stop - inner.start - 2) (text.drop 1)))) span [])
  | _ => none

/-- Statements up to the end that `done` recognises; strings that come first are directives. -/
def parseStatements (rules : Rules) (done : Parser Bool) : Parser (List Tree) :=
  loop (fun (items, opening) => do
    if ← done then return .inr items.reverse
    else
      let text := (← get).here
      let statement ← rules (.statement false)
      match if opening then directive? text statement else none with
      | some directive => return .inl (directive :: items, true)
      | none => return .inl (statement :: items, false)) ([], true)

/-- The body of a function, in braces. -/
def parseFunctionBody (rules : Rules) : Parser Tree :=
  under (fun c => { c with inFunction := true, arrowResult := true }) (do
    let start ← here
    expectMark "\x7b"
    let statements ← parseStatements rules atBlockEnd
    expectMark "\x7d"
    nodeFrom start .functionBody statements)

/-- The body of a function; where types are allowed it may be missing. -/
def optionalBody (rules : Rules) : Parser Tree := do
  if ← atMark "\x7b" then parseFunctionBody rules
  else if (← read).types then
    endStatement
    return .absent
  else unexpected

/-! ### Functions with a keyword -/

/-- What follows the name of a function: type parameters, parameters, result type and body. -/
def functionTail (rules : Rules) (async generator : Bool) : Parser (List Tree) :=
  under (fun c => { c with
    inOperator := true, arrowResult := true, awaitOperator := async, yieldOperator := generator }) (do
    let typeParameters ← typeParameters? rules
    let parameters ← parseParameters rules
    let result ← resultAnnotation? rules
    let body ← optionalBody rules
    return [typeParameters, parameters, result, body])

/-- The name of a function; `named` says that it needs one. A function in an expression binds its name inside. -/
def functionName (role : Role) (async generator named : Bool) : Parser Tree := do
  let k ← kind
  if k.isName then
    match role with
    | .expression _ => under (fun c => { c with awaitOperator := async, yieldOperator := generator }) bindingName
    | _ => bindingName
  else
    if named then
      if k.isMark "(" then note .functionNameExpected
      else if k.isAnyWord then missing "Identifier"
    return .absent

/-- A function whose `function` keyword is the current token or follows `async`; `named` says that it needs a name. -/
def parseFunction (rules : Rules) (start : Nat) (role : Role) (named declared : Bool) : Parser Tree := do
  let async ← eatWord "async"
  expectWord "function"
  let generator ← eatMark "*"
  let name ← functionName role async generator named
  let parts ← functionTail rules async generator
  nodeFrom start (.function role async generator declared false) (name :: parts)

/-- Whether a function with a keyword starts at the current token. -/
def atFunction : Parser Bool := do
  if ← atWord "function" then return true
  else if ← atWord "async" then
    let next ← nextToken
    return next.kind.isWord "function" && !next.newline
  else return false

/-- The function of a method, from its parameters on. -/
def methodFunction (rules : Rules) (async generator : Bool) : Parser Tree := do
  let start ← here
  let parts ← functionTail rules async generator
  nodeFrom start (.function .method async generator false false) (.absent :: parts)

/-- Whether a parameter takes what is left. -/
def isRest : Tree → Bool
  | .node .rest _ _ => true
  | _ => false

/-- Notes what is wrong with the parameters of a getter or setter. -/
def checkAccessor (kind : MethodKind) : Tree → Parser Unit
  | .node (.function _ _ _ _ _) _ [_, _, .node .parameters _ parameters, _, _] => do
    let own := parameters.filter fun p => !isReceiver p
    match kind with
    | .getter => noteIf (!own.isEmpty) .getterParameters
    | .setter =>
      if own.any isRest then note .setterRest
      else if own.length ≠ 1 then note .setterParameters
    | .plain => return
  | _ => return

/-- Says of a function expression or arrow function that it has no effects. -/
def markEffectless : Tree → Tree
  | .node (.arrow async kept _) span parts => .node (.arrow async kept true) span parts
  | .node (.function role async generator declared _) span parts =>
    .node (.function role async generator declared true) span parts
  | tree => tree

/-! ### Arrow functions -/

/-- The head of an arrow function with parentheses, through its `=>`; `async` says that this word was passed. -/
def arrowHead (rules : Rules) (async : Bool) : Parser (List Tree) :=
  under (fun c => { c with awaitOperator := c.awaitOperator || async }) (do
    let typeParameters ← typeParameters? rules
    let parameters ← parseParameters rules
    noteIf (parameters.parts.any isReceiver) .arrowReceiver
    let result ← resultAnnotation? rules
    noteIf (← onNewLine) .newlineBeforeArrow
    expectMark "=>"
    return [typeParameters, parameters, result])

/-- The head of an arrow function with a single name, through its `=>`. -/
def bareArrowHead (async : Bool) : Parser (List Tree) :=
  under (fun c => { c with awaitOperator := c.awaitOperator || async }) (do
    let start ← here
    let name ← bindingName
    noteIf (← onNewLine) .newlineBeforeArrow
    expectMark "=>"
    let parameter : Tree := .node (.parameter []) name.span [noDecorators start, name]
    return [.absent, .node .parameters name.span [parameter], .absent])

/-- The body of an arrow function. -/
def arrowBody (rules : Rules) (async : Bool) : Parser Tree :=
  under (fun c => { c with awaitOperator := async, yieldOperator := false }) (do
    if ← atMark "\x7b" then parseFunctionBody rules else rules .assignment)

/-- How sure it is that an arrow function starts. -/
inductive Chance where
  | no
  | maybe
  | yes
  deriving DecidableEq, Repr

/-- The words that may stand before a parameter. -/
def modifierWords : List String :=
  ["abstract", "accessor", "const", "declare", "default", "export", "in", "out", "public", "private", "protected",
    "override", "readonly", "static"]

/-- What a rest parameter's first word tells. -/
def restChance : TokenKind → Chance
  | .word text _ =>
    if ["true", "false", "null"].contains text then .no else if keywords.contains text then .maybe else .yes
  | .number _ _ => .no
  | .bigint _ _ => .no
  | .string _ _ => .no
  | .regex _ _ => .no
  | .template _ _ _ => .no
  | _ => .maybe

/-- What the tokens after an opening parenthesis tell. -/
def parenChance : Parser Chance := do
  pass
  let second ← kind
  match second with
  | .mark ")" =>
    pass
    let third ← kind
    if third.isMark "=>" || third.isMark "\x7b" then return .yes
    else if third.isMark ":" && (← read).types then return .maybe
    else return .no
  | .mark "[" => return .maybe
  | .mark "\x7b" => return .maybe
  | .mark "..." =>
    pass
    return restChance (← kind)
  | _ =>
    let modifier ← atAnyWord modifierWords
    pass
    let third ← kind
    if modifier && third.isName then return if third.isWord "as" then .no else .yes
    else if !(second.isName || second.isWord "this") then return .no
    else if third.isMark ":" && (← read).types then return .yes
    else if third.isMark "?" then
      pass
      let fourth ← kind
      return if [":", ",", "=", ")"].any fourth.isMark then .yes else .no
    else if [",", "=", ")"].any third.isMark then return .maybe
    else return .no

/-- What the tokens after an opening angle bracket tell: type parameters, or the start of a tag. -/
def angleChance : Parser Chance := do
  pass
  if !((← kind).isName || (← atWord "const")) then return .no
  else if !(← read).types then return .no
  else if !(← read).markup then return .maybe
  else
    let _ ← eatWord "const"
    pass
    if (← atMark ",") || (← atMark "=") then return .yes
    else if ← eatWord "extends" then
      return if ["=", ">", "/"].any (← kind).isMark then .no else .yes
    else return .no

/-- What the tokens from the current one on tell. -/
def arrowChance : Parser Chance := do
  let found ← ahead (do
    if ← atWord "async" then
      pass
      if ← onNewLine then return Chance.no
    if ← atMark "(" then parenChance
    else if ← atMark "<" then angleChance
    else return .no)
  return found.getD .no

/-- Whether an asynchronous arrow function with a single name starts at the current token. -/
def atAsyncBareArrow : Parser Bool := do
  if ← atWord "async" then
    let found ← ahead (do
      pass
      if (← onNewLine) || !(← kind).isName then return false
      pass
      return (← atMark "=>") && !(← onNewLine))
    return found == some true
  else return false

/-- Whether an arrow function with a single name starts at the current token. -/
def atBareArrow : Parser Bool := do
  let k ← kind
  let c ← read
  if k.isName && !(k.isWord "await" && c.awaitOperator) then return (← nextToken).kind.isMark "=>"
  else return false

/-- The rest of an arrow function whose head has been read. -/
def arrowRest (rules : Rules) (start : Nat) (async : Bool) (head : List Tree) : Parser Tree := do
  let body ← arrowBody rules async
  nodeFrom start (.arrow async false false) (head ++ [body])

/-- An arrow function with parentheses. -/
def parenArrow (rules : Rules) : Parser Tree := do
  let start ← here
  let async ← eatWord "async"
  let head ← arrowHead rules async
  arrowRest rules start async head

/-- An arrow function with parentheses, if there is one. In a branch of a conditional expression that a colon ends, a
result type is one only if another colon follows. -/
def parenArrow? (rules : Rules) : Parser (Option Tree) := orStay do
  let start ← here
  let found ← attempt (do
    let async ← eatWord "async"
    return (async, ← arrowHead rules async))
  match found with
  | none => return none
  | some (async, head) =>
    let arrow ← arrowRest rules start async head
    let typed := match head with
      | [_, _, result] => result.isPresent
      | _ => false
    if typed && !(← read).arrowResult && !(← atMark ":") then return none
    else return some arrow

/-- An arrow function that starts at the current token, if one does. -/
def arrowFunction? (rules : Rules) : Parser (Option Tree) := do
  let start ← here
  match ← arrowChance with
  | .yes => return some (← under (fun c => { c with arrowResult := true }) (parenArrow rules))
  | .maybe => parenArrow? rules
  | .no =>
    if ← atAsyncBareArrow then
      advance
      let head ← bareArrowHead true
      return some (← arrowRest rules start true head)
    else if ← atBareArrow then
      let head ← bareArrowHead false
      return some (← arrowRest rules start false head)
    else return none

end JsxLowering.Grammar
