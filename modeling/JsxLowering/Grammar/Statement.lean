import JsxLowering.Grammar.Module

/-!
# Statements
-/

namespace JsxLowering.Grammar

/-! ### Variables -/

/-- The fault of a target that needs a value and has none. -/
def missingValue? (keyword : String) : Tree → Option Fault
  | .node .objectPattern _ _ => some .missingDestructured
  | .node .arrayPattern _ _ => some .missingDestructured
  | .node (.typed _) _ (target :: _) => missingValue? keyword target
  | _ => if keyword == "const" then some .missingInitializer else none

/-- Notes that a declarator needs a value and has none. -/
def noteMissingValue (keyword : String) : Tree → Parser Unit
  | .node .declarator _ [target] =>
    match missingValue? keyword target with
    | some fault => note fault
    | none => return
  | _ => return

/-- A declarator. -/
def parseDeclarator (rules : Rules) : Parser Tree := do
  let start ← here
  let target ← typedTarget rules "!"
  if ← eatMark "=" then
    let value ← rules .assignment
    nodeFrom start .declarator [target, value]
  else nodeFrom start .declarator [target]

/-- A declarator that is checked after it is read. -/
def checkedDeclarator (rules : Rules) (check : Tree → Parser Unit) : Parser Tree := do
  let declarator ← parseDeclarator rules
  check declarator
  return declarator

/-- The declarators of a declaration, whose keyword has been passed; each is checked after it is read. -/
def parseDeclarators (rules : Rules) (check : Tree → Parser Unit) : Parser (List Tree) := do
  let first ← checkedDeclarator rules check
  let more ← many (do return !(← atMark ",")) (do
    advance
    checkedDeclarator rules check)
  return first :: more

/-- The marks after which `let` is a name. -/
def letFollowers : List String :=
  ["==", "!=", "===", "!==", "<", "<=", ">", "<<", "+", "-", "*", "/", "%", "**", "|", "^", "&", "&&", "||", "??",
    ".", "(", ";"] ++ assignmentOperators

/-- Whether a declaration with `let` starts at the current token; `alone` says that only a single statement may stand
here. -/
def atLet (alone : Bool) : Parser Bool := do
  match ← kind with
  | .word "let" false =>
    let next ← nextToken
    if next.kind.isMark "[" then return true
    else if alone then return false
    else
      match next.kind with
      | .mark text => return !letFollowers.contains text
      | .word text _ => return text != "in" && text != "instanceof"
      | _ => return true
  | _ => return false

/-- Whether a resource is declared at the current token. -/
def atResource : Parser Bool := do
  let found ← ahead (do
    if ← atWord "await" then
      pass
      if ← onNewLine then return false
    if !(← atWord "using") then return false
    pass
    return (← kind).isName && !(← onNewLine) && !(← atWord "of"))
  return found == some true

/-- A declaration of variables. -/
def parseVariables (rules : Rules) (start : Nat) (declared : Bool) : Parser Tree := do
  let keyword ← passWord
  let ambient := declared || (← read).ambient
  let declarators ← parseDeclarators rules fun d => unless ambient do noteMissingValue keyword d
  endStatement
  nodeFrom start (.variableDeclaration keyword declared) declarators

/-- The keyword of a declaration of resources, which is passed. -/
def passResourceKeyword : Parser String := do
  let awaits ← eatWord "await"
  expectWord "using"
  return if awaits then "await using" else "using"

/-- A declaration of resources. -/
def parseResources (rules : Rules) : Parser Tree := do
  let start ← here
  let keyword ← passResourceKeyword
  let declarators ← parseDeclarators rules fun d => noteIf (d.parts.length = 1) .missingResource
  endStatement
  nodeFrom start (.variableDeclaration keyword false) declarators

/-! ### Blocks and branches -/

/-- Statements in braces. -/
def parseBlock (rules : Rules) : Parser Tree := do
  let start ← here
  expectMark "\x7b"
  let statements ← many atBlockEnd (rules (.statement false))
  expectMark "\x7d"
  nodeFrom start .block statements

/-- An expression in parentheses after a keyword. -/
def parseTest (rules : Rules) : Parser Tree := do
  expectMark "("
  let test ← rules .expression
  expectMark ")"
  return test

/-- A branch, whose `if` is the current token. -/
def parseIf (rules : Rules) : Parser Tree := do
  let start ← here
  advance
  let test ← parseTest rules
  let consequent ← rules (.statement true)
  if ← eatWord "else" then
    let alternate ← rules (.statement true)
    nodeFrom start .branch [test, consequent, alternate]
  else nodeFrom start .branch [test, consequent]

/-- A case of a `switch`. -/
def parseCase (rules : Rules) : Parser Tree := do
  let start ← here
  let test ←
    if ← eatWord "default" then pure .absent
    else if ← eatWord "case" then rules .expression
    else unexpected
  expectMark ":"
  let statements ← many
    (do return (← atBlockEnd) || (← atWord "case") || (← atWord "default")) (rules (.statement false))
  nodeFrom start .switchCase (test :: statements)

/-- A `switch`, whose keyword is the current token. -/
def parseSwitch (rules : Rules) : Parser Tree := do
  let start ← here
  advance
  let discriminant ← parseTest rules
  expectMark "\x7b"
  let cases ← many atBlockEnd (parseCase rules)
  expectMark "\x7d"
  nodeFrom start .switch (discriminant :: cases)

/-- A handler of errors, whose `catch` is the current token. -/
def parseCatch (rules : Rules) : Parser Tree := do
  let start ← here
  advance
  let parameter ←
    if ← eatMark "(" then do
      let target ← typedTarget rules "?"
      expectMark ")"
      pure target
    else pure .absent
  let body ← parseBlock rules
  nodeFrom start .catchClause [parameter, body]

/-- A `try`, whose keyword is the current token. -/
def parseTry (rules : Rules) : Parser Tree := do
  let start ← here
  advance
  let block ← parseBlock rules
  let handler ← optionally (atWord "catch") (parseCatch rules)
  let finalizer ← optionally (eatWord "finally") (parseBlock rules)
  noteIf (!handler.isPresent && !finalizer.isPresent) .missingHandler
  nodeFrom start .tryBlock [block, handler, finalizer]

/-! ### Loops -/

/-- The rest of a loop over the members or elements of something. -/
def eachRest (rules : Rules) (start : Nat) (awaits : Bool) (left : Tree) : Parser Tree := do
  let isOf ← atWord "of"
  advance
  let right ← if isOf then rules .assignment else rules .expression
  expectMark ")"
  noteIf (awaits && !isOf) .awaitWithoutOf
  let body ← rules (.statement true)
  nodeFrom start (if isOf then .forOf awaits else .forIn) [left, right, body]

/-- An expression that may be left out, before the given mark. -/
def optionalExpression (rules : Rules) (closing : String) : Parser Tree := do
  if ← atMark closing then return .absent else allowingIn (rules .expression)

/-- The rest of a loop with a counter, from its first semicolon on. -/
def forRest (rules : Rules) (start : Nat) (awaits : Bool) (init : Tree) : Parser Tree := do
  expectMark ";"
  let test ← optionalExpression rules ";"
  expectMark ";"
  let update ← optionalExpression rules ")"
  expectMark ")"
  noteIf awaits .awaitWithoutOf
  let body ← rules (.statement true)
  nodeFrom start .forLoop [init, test, update, body]

/-- Whether a loop runs over the members or elements of something. -/
def atEach : Parser Bool := do
  return (← atWord "of") || (← atWord "in")

/-- The rest of a loop that declares variables of the given keyword, which has been passed. -/
def forVariables (rules : Rules) (start inner : Nat) (awaits : Bool) (keyword : String) : Parser Tree := do
  let declarators ← under (fun c => { c with inOperator := false }) (parseDeclarators rules fun _ => return)
  let declaration ← nodeFrom inner (.variableDeclaration keyword false) declarators
  if ← atEach then eachRest rules start awaits declaration
  else
    declarators.forM (noteMissingValue keyword)
    forRest rules start awaits declaration

/-- Whether a declaration with `let` starts a loop. -/
def atLoopLet : Parser Bool := do
  match ← kind with
  | .word "let" _ =>
    let next ← nextToken
    match next.kind with
    | .mark text => return text == "[" || text == "\x7b"
    | .word text _ => return next.kind.isName && (text != "of" || (← ahead (do pass; pass; atEach)) == some true)
    | _ => return false
  | _ => return false

/-- A loop that starts with an expression. -/
def forExpression (rules : Rules) (start : Nat) (awaits : Bool) : Parser Tree := do
  let inner ← here
  let startsWithLet ← atWord "let"
  let startsWithAsync ← atWord "async"
  let init ← under (fun c => { c with inOperator := false }) (rules .expression)
  let width := (← spanFrom inner).stop - inner
  if ← atEach then
    let isOf ← atWord "of"
    let target ← takeTarget init
    noteIf (isOf && !awaits && startsWithAsync && width = "async".utf8ByteSize) .asyncBeforeOf
    noteIf (isOf && startsWithLet) .letBeforeOf
    eachRest rules start awaits target
  else forRest rules start awaits init

/-- A `for`, whose keyword is the current token. -/
def parseFor (rules : Rules) : Parser Tree := do
  let start ← here
  advance
  let awaits ← atWord "await"
  if awaits then
    noteIf (!(← read).awaitOperator) .awaitOutsideAsync
    advance
  expectMark "("
  let inner ← here
  if ← atMark ";" then forRest rules start awaits .absent
  else if (← atAnyWord ["var", "const"]) || (← atLoopLet) then
    let keyword ← passWord
    forVariables rules start inner awaits keyword
  else if ← atResource then
    let keyword ← passResourceKeyword
    forVariables rules start inner awaits keyword
  else forExpression rules start awaits

/-- A `while`, whose keyword is the current token. -/
def parseWhile (rules : Rules) : Parser Tree := do
  let start ← here
  advance
  let test ← parseTest rules
  let body ← rules (.statement true)
  nodeFrom start .whileLoop [test, body]

/-- A `do`, whose keyword is the current token. -/
def parseDo (rules : Rules) : Parser Tree := do
  let start ← here
  advance
  let body ← rules (.statement true)
  expectWord "while"
  let test ← parseTest rules
  let _ ← eatMark ";"
  nodeFrom start .doWhile [body, test]

/-! ### Jumps -/

/-- Whether a statement may end here. -/
def atStatementEnd : Parser Bool := do
  let t ← token
  return t.kind.isMark ";" || t.kind.isMark "\x7d" || t.kind == .eof || t.newline

/-- A label that a statement names. -/
def labelKey : Parser Tree := do
  if (← kind).isName then wordKey else unexpected

/-- A jump out of a loop or to its next round. -/
def parseJump (form : Form) : Parser Tree := do
  let start ← here
  advance
  let label ← if ← atStatementEnd then pure [] else do pure [← labelKey]
  endStatement
  nodeFrom start form label

/-- A `return`, whose keyword is the current token. -/
def parseReturn (rules : Rules) : Parser Tree := do
  let start ← here
  advance
  let value ← if ← atStatementEnd then pure [] else do pure [← allowingIn (rules .expression)]
  endStatement
  noteIf (!(← read).inFunction) .returnOutsideFunction
  nodeFrom start .returnValue value

/-- A `throw`, whose keyword is the current token. -/
def parseThrow (rules : Rules) : Parser Tree := do
  let start ← here
  advance
  noteIf (← onNewLine) .newlineAfterThrow
  let value ← rules .expression
  endStatement
  nodeFrom start .throwValue [value]

/-! ### Other statements -/

/-- An expression as a statement. -/
def parseExpressionStatement (rules : Rules) : Parser Tree := do
  let start ← here
  let expression ← rules .expression
  endStatement
  nodeFrom start .expressionStatement [expression]

/-- A statement after a label. -/
def parseLabeled (rules : Rules) : Parser Tree := do
  let start ← here
  let label ← wordKey
  advance
  let body ← rules (.statement true)
  nodeFrom start .labeled [label, body]

/-- A `with`, whose keyword is the current token. -/
def parseWith (rules : Rules) : Parser Tree := do
  let start ← here
  advance
  let object ← parseTest rules
  let body ← rules (.statement true)
  nodeFrom start .withScope [object, body]

/-! ### Declarations -/

/-- Whether a function is asynchronous, and whether it is a generator. -/
def functionKind : Tree → Bool × Bool
  | .node (.function _ async generator _ _) _ _ => (async, generator)
  | _ => (false, false)

/-- A function declaration. -/
def functionDeclaration (rules : Rules) (start : Nat) (alone declared : Bool) : Parser Tree := do
  let function ← parseFunction rules start .declaration true declared
  let (async, generator) := functionKind function
  noteIf (alone && async) .asyncFunctionAlone
  noteIf (alone && generator) .generatorAlone
  return function

/-- A class declaration. -/
def classDeclaration (rules : Rules) (start : Nat) (alone : Bool) (modifiers : List String) (decorators : Tree) :
    Parser Tree := do
  let tree ← parseClass rules start .declaration modifiers decorators
  noteIf alone .classAlone
  return tree

/-- A declaration of variables, where only a single statement may stand or where more may. -/
def variableStatement (rules : Rules) (start : Nat) (alone : Bool) : Parser Tree := do
  let lexical := !(← atWord "var")
  let tree ← parseVariables rules start false
  noteIf (alone && lexical) .declarationAlone
  return tree

/-- A declaration that types allow: one that starts with a word which is a plain name elsewhere. -/
def typeDeclaration? (rules : Rules) (start : Nat) (declared : Bool) : Parser (Option Tree) := do
  let next ← nextToken
  let followed := next.kind.isName && !next.newline
  let modifiers := if declared then ["declare"] else []
  match ← kind with
  | .word "interface" _ => if followed then return some (← parseInterface rules start declared) else return none
  | .word "type" _ => if followed then return some (← parseTypeAlias rules start declared) else return none
  | .word "enum" _ => return some (← parseEnum rules start modifiers)
  | .word "const" _ =>
    if next.kind.isWord "enum" then
      advance
      return some (← parseEnum rules start (modifiers ++ ["const"]))
    else if declared then return some (← parseVariables rules start true)
    else return none
  | .word "namespace" _ => if followed then return some (← parseNamespace rules start declared) else return none
  | .word "module" _ =>
    let named := match next.kind with
      | .string _ _ => !next.newline
      | _ => followed
    if named then return some (← parseNamespace rules start declared) else return none
  | .word "global" _ =>
    if next.kind.isMark "\x7b" then return some (← parseNamespace rules start declared) else return none
  | .word "abstract" _ =>
    if next.kind.isWord "class" && !next.newline then
      advance
      return some (← parseClass rules start .declaration (modifiers ++ ["abstract"]) (noDecorators start))
    else return none
  | .word "class" _ =>
    if declared then return some (← parseClass rules start .declaration modifiers (noDecorators start))
    else return none
  | _ =>
    if !declared then return none
    else if ← atFunction then return some (← parseFunction rules start .declaration true true)
    else if (← atWord "var") || (← atLet false) then return some (← parseVariables rules start true)
    else return none

/-- A declaration that types allow, with or without `declare`. -/
def typedDeclaration? (rules : Rules) : Parser (Option Tree) := do
  if !(← read).types then return none
  else
    let start ← here
    let next ← nextToken
    if (← atWord "declare") && next.kind.isAnyWord && !next.newline then
      attempt (do
        advance
        match ← typeDeclaration? rules start true with
        | some tree => return tree
        | none => unexpected)
    else typeDeclaration? rules start false

/-- A class or an export with decorators before it. -/
def decoratedStatement (rules : Rules) (alone : Bool) : Parser Tree := do
  let start ← here
  let decorators ← parseDecorators rules
  if ← atWord "export" then parseExport rules start decorators
  else
    let isAbstract ← eatWord "abstract"
    classDeclaration rules start alone (if isAbstract then ["abstract"] else []) decorators

/-- Whether the current word is a label. -/
def atLabel : Parser Bool := do
  let k ← kind
  let c ← read
  let operator := (k.isWord "await" && c.awaitOperator) || (k.isWord "yield" && c.yieldOperator)
  if k.isName && !operator then return (← nextToken).kind.isMark ":" else return false

/-- A statement that starts with none of the keywords. -/
def plainStatement (rules : Rules) (alone : Bool) : Parser Tree := do
  let start ← here
  if ← atFunction then functionDeclaration rules start alone false
  else if (← atAnyWord ["var", "const"]) || (← atLet alone) then variableStatement rules start alone
  else if ← atResource then parseResources rules
  else if ← atLabel then parseLabeled rules
  else parseExpressionStatement rules

/-- The statement that starts at the current token. -/
def bareStatement (rules : Rules) (alone : Bool) : Parser Tree := do
  let start ← here
  match ← kind with
  | .mark "\x7b" => parseBlock rules
  | .mark ";" =>
    advance
    nodeFrom start .empty []
  | .mark "@" => decoratedStatement rules alone
  | .word "class" _ => classDeclaration rules start alone [] (noDecorators start)
  | .word "if" _ => parseIf rules
  | .word "for" _ => parseFor rules
  | .word "while" _ => parseWhile rules
  | .word "do" _ => parseDo rules
  | .word "continue" _ => parseJump .continueLoop
  | .word "break" _ => parseJump .breakOut
  | .word "return" _ => parseReturn rules
  | .word "throw" _ => parseThrow rules
  | .word "with" _ => parseWith rules
  | .word "switch" _ => parseSwitch rules
  | .word "try" _ => parseTry rules
  | .word "debugger" _ =>
    advance
    endStatement
    nodeFrom start .debugger []
  | .word "import" _ =>
    if ← atImportExpression then parseExpressionStatement rules else parseImportDeclaration rules
  | .word "export" _ => parseExport rules start (noDecorators start)
  | _ => plainStatement rules alone

/-- Says of the function that a declaration declares that it has no effects. -/
def markDeclared : Tree → Tree
  | .node (.function .declaration async generator declared _) span parts =>
    .node (.function .declaration async generator declared true) span parts
  | .node (.variableDeclaration "const" declared) span
      (.node .declarator first [target, value] :: more) =>
    .node (.variableDeclaration "const" declared) span (.node .declarator first [target, markEffectless value] :: more)
  | tree => tree

/-- Says of the function that a statement declares or exports that it has no effects. -/
def markStatement : Tree → Tree
  | .node .exportDeclaration span [declaration] => .node .exportDeclaration span [markDeclared declaration]
  | .node .exportDefault span [.node (.function .declaration async generator declared _) inner parts] =>
    .node .exportDefault span [.node (.function .declaration async generator declared true) inner parts]
  | tree => markDeclared tree

/-- A statement; `alone` says that it stands where only one may. -/
def parseStatement (rules : Rules) (alone : Bool) : Parser Tree := do
  let effectless := (← token).effectless
  let tree ← match ← typedDeclaration? rules with
    | some declaration => pure declaration
    | none => bareStatement rules alone
  return if effectless then markStatement tree else tree

end JsxLowering.Grammar
