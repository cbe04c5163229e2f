import JsxLowering.Grammar.TypeDeclaration

/-!
# Imports and exports
-/

namespace JsxLowering.Grammar

/-- A name of an export, which may be a string. -/
def exportName : Parser Leaf := do
  match ← kind with
  | .string _ surrogates =>
    noteIf surrogates .exportedSurrogate
    stringLeaf
  | _ => wordLeaf

/-- Whether a name of an export can start here. -/
def atExportName : Parser Bool := do
  match ← kind with
  | .string _ _ => return true
  | .word _ _ => return true
  | _ => return false

/-- The attributes of an import, if there are any. -/
def importAttributes? (rules : Rules) : Parser Tree := do
  let start ← here
  let asserted := (← atWord "assert") && !(← onNewLine)
  if (← atWord "with") || asserted then
    let keyword ← passWord
    expectMark "\x7b"
    let (items, _) ← separated "," "\x7d" (do
      let start ← here
      let (key, _) ← propertyKey rules
      expectMark ":"
      let value ← stringNode
      nodeFrom start .importAttribute [key, value])
    expectMark "\x7d"
    nodeFrom start (.importAttributes keyword) items
  else return .absent

/-- A binding with the text and the span of a name. -/
def asBinding : Leaf → Leaf
  | ⟨.key text, span⟩ => ⟨.binding text, span⟩
  | leaf => leaf

/-! ### Specifiers -/

/-- A specifier as it is written: whether it is only for types, the name it takes and the name it gives. -/
structure Specifier where
  typeOnly : Bool
  own : Leaf
  given : Leaf

/-- A specifier whose first word `type` has been passed, as a name or as a mark of types: what follows tells. -/
def typeSpecifier (first : Leaf) : Parser Specifier := do
  if ← atWord "as" then
    let firstAs ← wordLeaf
    if ← atWord "as" then
      let secondAs ← wordLeaf
      if ← atExportName then return ⟨true, firstAs, ← exportName⟩ else return ⟨false, first, secondAs⟩
    else if ← atExportName then return ⟨false, first, ← exportName⟩
    else return ⟨true, firstAs, firstAs⟩
  else if ← atExportName then
    let own ← exportName
    if ← eatWord "as" then return ⟨true, own, ← exportName⟩ else return ⟨true, own, own⟩
  else return ⟨false, first, first⟩

/-- A specifier of an import or export. -/
def parseSpecifier : Parser Specifier := do
  if (← read).types && (← atWord "type") then typeSpecifier (← wordLeaf)
  else
    let own ← exportName
    if ← eatWord "as" then return ⟨false, own, ← exportName⟩ else return ⟨false, own, own⟩

/-- A named specifier of an import where the first word may mark a type. -/
def typedImportSpecifier : Parser Tree := do
  let start ← here
  let specifier ← typeSpecifier (← wordLeaf)
  nodeFrom start (.importNamed specifier.typeOnly) [specifier.own.tree, (asBinding specifier.given).tree]

/-- A named specifier of an import. -/
def importSpecifier : Parser Tree := do
  if (← read).types && (← atWord "type") then typedImportSpecifier
  else
    let start ← here
    let next ← nextToken
    let quoted := match ← kind with
      | .string _ _ => true
      | _ => false
    if quoted || next.kind.isWord "as" then
      let imported ← exportName
      expectWord "as"
      let binding ← bindingName
      nodeFrom start (.importNamed false) [imported.tree, binding]
    else
      let text ← bindingText
      let span ← spanFrom start
      nodeFrom start (.importNamed false) [.node (.key text) span [], .node (.binding text) span []]

/-- The named specifiers of an import, in braces. -/
def importSpecifiers : Parser (List Tree) := do
  expectMark "\x7b"
  let (items, _) ← separated "," "\x7d" importSpecifier
  expectMark "\x7d"
  return items

/-- The specifier for a whole module. -/
def importNamespace : Parser Tree := do
  let start ← here
  expectMark "*"
  expectWord "as"
  let binding ← bindingName
  nodeFrom start .importNamespace [binding]

/-- The specifiers of an import. -/
def importClause : Parser (List Tree) := do
  let start ← here
  if ← atMark "\x7b" then importSpecifiers
  else if ← atMark "*" then return [← importNamespace]
  else if (← kind).isName then
    let binding ← bindingName
    let first ← nodeFrom start .importDefault [binding]
    if ← eatMark "," then
      if ← atMark "*" then return [first, ← importNamespace]
      else if ← atMark "\x7b" then return first :: (← importSpecifiers)
      else unexpected
    else return [first]
  else return []

/-! ### Imports -/

/-- The kind of an import: what stands between `import` and its specifiers. -/
def importKind : Parser String := do
  let next ← nextToken
  let names := next.kind.isMark "\x7b" || next.kind.isMark "*"
  let word := match next.kind with
    | .word text _ => text != "from"
    | _ => false
  let twice := (← ahead (do pass; pass; atWord "from")) == some true
  if (← read).types && (← atWord "type") && (names || word || (next.kind.isWord "from" && twice)) then passWord
  else if (← atWord "defer") && next.kind.isMark "*" then passWord
  else if (← atWord "source") && next.kind.isName && (word || twice) then passWord
  else return ""

/-- The source of an import or export, with its attributes. -/
def sourceAndAttributes (rules : Rules) : Parser (List Tree) := do
  let source ← stringNode
  let attributes ← importAttributes? rules
  endStatement
  return [source, attributes]

/-- What an import with an equals sign stands for. -/
def moduleReference : Parser Tree := do
  let start ← here
  let next ← nextToken
  if (← atWord "require") && next.kind.isMark "(" then
    advance
    advance
    let source ← stringNode
    expectMark ")"
    nodeFrom start .externalModule [source]
  else qualifiedName wordKey

/-- An import, whose keyword is the current token. -/
def parseImportDeclaration (rules : Rules) : Parser Tree := do
  let start ← here
  advance
  match ← kind with
  | .string _ _ =>
    let tail ← sourceAndAttributes rules
    nodeFrom start (.importDeclaration "") (.absent :: tail)
  | _ =>
    let importKind ← importKind
    let next ← nextToken
    if (← read).types && (← kind).isName && next.kind.isMark "=" then
      let binding ← bindingName
      advance
      let reference ← moduleReference
      endStatement
      nodeFrom start .importEquals [binding, reference]
    else
      let clauseStart ← here
      let specifiers ← importClause
      let clause ← nodeFrom clauseStart .importClause specifiers
      expectWord "from"
      let tail ← sourceAndAttributes rules
      nodeFrom start (.importDeclaration importKind) (clause :: tail)

/-- Whether the statement at the current token, which is `import`, is an expression. -/
def atImportExpression : Parser Bool := do
  let next ← nextToken
  return next.kind.isMark "(" || next.kind.isMark "."

/-! ### Exported names -/

mutual

/-- The names that a target binds. -/
def boundNames : Tree → List String
  | .node (.binding text) _ _ => [text]
  | .node .objectPattern _ parts => boundNamesOf parts
  | .node .arrayPattern _ parts => boundNamesOf parts
  | .node (.patternProperty _ _) _ [_, target] => boundNames target
  | .node .rest _ [target] => boundNames target
  | .node .defaulted _ [target, _] => boundNames target
  | .node (.typed _) _ (target :: _) => boundNames target
  | .node .declarator _ (target :: _) => boundNames target
  | .node (.variableDeclaration _ _) _ parts => boundNamesOf parts
  | .node (.function _ _ _ _ _) _ (name :: _) => boundNames name
  | .node (.classDefinition _ _) _ (_ :: name :: _) => boundNames name
  | _ => []

/-- The names that several targets bind. -/
def boundNamesOf : List Tree → List String
  | [] => []
  | tree :: rest => boundNames tree ++ boundNamesOf rest

end

/-- The name that a specifier gives. -/
def givenName? : Tree → Option String
  | .node (.exportSpecifier _) _ [_, given] => keyText? given
  | _ => none

/-- The names that a statement exports, the default apart. -/
def exportedNames : Tree → List String
  | .node (.exportNamed _) _ (.node .list _ specifiers :: _) => specifiers.filterMap givenName?
  | .node (.exportAll _) _ (exported :: _) => (keyText? exported).toList
  | .node .exportDeclaration _ [declaration] => boundNames declaration
  | _ => []

/-- Whether a statement exports the default. -/
def exportsDefault : Tree → Bool
  | .node .exportDefault _ _ => true
  | _ => false

/-- The items of a list that stand in it before. -/
def repeated (seen : List String) : List String → List String
  | [] => []
  | name :: rest => if seen.contains name then name :: repeated seen rest else repeated (name :: seen) rest

/-- What is wrong with the exports of a program. -/
def exportFaults (statements : List Tree) : List Fault :=
  let names := statements.flatMap exportedNames
  let defaults := (statements.filter exportsDefault).map fun _ => "default"
  let shared := if names.contains "default" then defaults.take 1 else []
  (repeated [] names ++ defaults.drop 1 ++ shared).map Fault.duplicateExport

/-! ### Exports -/

/-- A specifier of an export. -/
def exportSpecifier : Parser Tree := do
  let start ← here
  let specifier ← parseSpecifier
  nodeFrom start (.exportSpecifier specifier.typeOnly) [specifier.own.tree, specifier.given.tree]

/-- Notes that a specifier names nothing that could be bound here. -/
def checkExported : Tree → Parser Unit
  | .node (.exportSpecifier _) _ [own, _] =>
    match own with
    | .node (.string _ _) _ _ => note .exportedString
    | .node (.key text) _ _ =>
      noteIf (text == "await" || Text.reservedWords.contains text) .exportedReserved
    | _ => return
  | _ => return

/-- The rest of an export with specifiers in braces. -/
def exportSpecifiers (rules : Rules) (start : Nat) (typeOnly : Bool) : Parser Tree := do
  let clauseStart ← here
  expectMark "\x7b"
  let (items, _) ← separated "," "\x7d" exportSpecifier
  expectMark "\x7d"
  let clause ← nodeFrom clauseStart .list items
  if ← eatWord "from" then
    let tail ← sourceAndAttributes rules
    nodeFrom start (.exportNamed typeOnly) (clause :: tail)
  else
    items.forM checkExported
    endStatement
    nodeFrom start (.exportNamed typeOnly) [clause, .absent, .absent]

/-- The rest of an export of a whole module. -/
def exportAll (rules : Rules) (start : Nat) (typeOnly : Bool) : Parser Tree := do
  expectMark "*"
  let exported ← optionally (eatWord "as") (return (← exportName).tree)
  expectWord "from"
  let tail ← sourceAndAttributes rules
  nodeFrom start (.exportAll typeOnly) (exported :: tail)

/-- What `export default` exports; `decorators` stand before `export`. -/
def defaultExport (rules : Rules) (decorators : Tree) : Parser Tree := do
  let start ← here
  let next ← nextToken
  if ← atFunction then parseFunction rules start .declaration false false
  else if ← atWord "class" then parseClass rules start .declaration [] decorators
  else if ← atMark "@" then
    noteIf (!decorators.parts.isEmpty) .scatteredDecorators
    let decorators ← parseDecorators rules
    let isAbstract ← eatWord "abstract"
    parseClass rules start .declaration (if isAbstract then ["abstract"] else []) decorators
  else if (← read).types && (← atWord "abstract") && next.kind.isWord "class" then
    advance
    parseClass rules start .declaration ["abstract"] decorators
  else if (← read).types && (← atWord "interface") && next.kind.isName && !next.newline then
    parseInterface rules start false
  else
    let expression ← rules .assignment
    endStatement
    return expression

/-- Whether a declaration that can be exported starts at the current token. -/
def atDeclaration : Parser Bool := do
  if ← atAnyWord ["var", "let", "const", "function", "class", "import", "enum"] then return true
  else if ← atMark "@" then return true
  else if ← atWord "async" then atFunction
  else if ← atWord "using" then return (← nextToken).kind.isName
  else if (← read).types then
    atAnyWord ["interface", "type", "namespace", "module", "declare", "abstract", "global"]
  else return false

/-- A class whose decorators stand before `export`. -/
def withDecorators (decorators : Tree) : Tree → Tree
  | .node (.classDefinition role modifiers) span (own :: parts) =>
    if decorators.parts.isEmpty then .node (.classDefinition role modifiers) span (own :: parts)
    else .node (.classDefinition role modifiers) span (decorators :: parts)
  | tree => tree

/-- An export, whose keyword is the current token; `decorators` stand before it. -/
def parseExport (rules : Rules) (start : Nat) (decorators : Tree) : Parser Tree := do
  advance
  let next ← nextToken
  let types := (← read).types
  match ← kind with
  | .word "default" _ =>
    advance
    let exported ← defaultExport rules decorators
    nodeFrom start .exportDefault [exported]
  | .mark "*" => exportAll rules start false
  | .mark "\x7b" => exportSpecifiers rules start false
  | _ =>
    let typeOnly := types && (← atWord "type")
    if typeOnly && next.kind.isMark "\x7b" then
      advance
      exportSpecifiers rules start true
    else if typeOnly && next.kind.isMark "*" then
      advance
      exportAll rules start true
    else if types && (← atMark "=") then
      advance
      let expression ← rules .assignment
      endStatement
      nodeFrom start .exportEquals [expression]
    else if types && (← atWord "as") && next.kind.isWord "namespace" then
      advance
      advance
      let name ← wordKey
      endStatement
      nodeFrom start .exportNamespace [name]
    else if ← atDeclaration then
      noteIf (← atWord "using") .exportedResource
      noteIf ((← atMark "@") && !decorators.parts.isEmpty) .scatteredDecorators
      let declaration ← rules (.statement false)
      nodeFrom start .exportDeclaration [withDecorators decorators declaration]
    else unexpected

end JsxLowering.Grammar
