import JsxLowering.Grammar.Key

/-!
# Types

Type annotations, type parameters and arguments, and the types themselves. They are read only where the source
type has types, and printed back as they are.
-/

namespace JsxLowering.Grammar

/-- The types that are single words. -/
def keywordTypes : List String :=
  ["any", "unknown", "never", "void", "undefined", "string", "number", "boolean", "symbol", "bigint", "object",
    "null", "this", "intrinsic"]

/-- A list of types between angle brackets. -/
def typeArguments (rules : Rules) : Parser Tree := do
  let start ← here
  expectMark "<"
  let (items, _) ← allowingConditions (separated "," ">" (rules .type))
  expectMark ">"
  nodeFrom start .typeArguments items

/-- Type arguments, if there are any. -/
def typeArguments? (rules : Rules) : Parser Tree := do
  if ← atMark "<" then typeArguments rules else return .absent

/-- A name with qualifiers before dots, at least one part; `root` reads the first part. -/
def qualifiedName (root : Parser Tree) : Parser Tree := do
  let start ← here
  let first ← root
  loop (fun left => do
    if ← eatMark "." then
      let right ← wordKey
      return .inl (← nodeFrom start .qualified [left, right])
    else return .inr left) first

/-- A reference to a type. -/
def typeReference (rules : Rules) : Parser Tree := do
  let start ← here
  let name ← qualifiedName wordKey
  let arguments ← if ← onNewLine then pure .absent else typeArguments? rules
  nodeFrom start .typeReference [name, arguments]

/-- The modifiers of a type parameter. -/
def typeParameterModifiers : Parser (List String) :=
  many (do
    let next ← nextToken
    let modifier := (← atWord "const") || ((← atAnyWord ["in", "out"]) && next.kind.isAnyWord)
    return !modifier)
    passWord

/-- A type parameter. -/
def typeParameter (rules : Rules) : Parser Tree := do
  let start ← here
  let modifiers ← typeParameterModifiers
  let name ← bindingName
  let constraint ← optionally (eatWord "extends") (rules .type)
  let fallback ← optionally (eatMark "=") (rules .type)
  nodeFrom start (.typeParameter modifiers) [name, constraint, fallback]

/-- Type parameters, if there are any. -/
def typeParameters? (rules : Rules) : Parser Tree := do
  if (← read).types && (← atMark "<") then
    let start ← here
    advance
    let (items, _) ← allowingConditions (separated "," ">" (typeParameter rules))
    expectMark ">"
    nodeFrom start .typeParameters items
  else return .absent

/-- A type after a colon, if there is one. -/
def typeAnnotation? (rules : Rules) : Parser Tree := do
  if !(← read).types then return .absent
  else if ← eatMark ":" then allowingConditions (rules .type)
  else return .absent

/-- The parameter that stands for the receiver, whose name is the current token. -/
def receiverParameter (rules : Rules) : Parser Tree := do
  let start ← here
  advance
  let name ← nodeFrom start (.typeKeyword "this") []
  let type ← typeAnnotation? rules
  if type.isPresent then nodeFrom start (.typed "") [name, type] else return name

/-- What a claim is about: a parameter or the receiver. -/
def predicateSubject : Parser Tree := do
  let start ← here
  if ← eatWord "this" then nodeFrom start (.typeKeyword "this") [] else wordKey

/-- A result type: a type or a claim about a parameter. -/
def resultType (rules : Rules) : Parser Tree := do
  let start ← here
  let next ← nextToken
  if (← atWord "asserts") && next.kind.isAnyWord && !next.newline && !next.kind.isWord "is" then
    advance
    let name ← predicateSubject
    let type ← optionally (eatWord "is") (rules .type)
    nodeFrom start (.predicate true) [name, type]
  else if (← kind).isAnyWord && next.kind.isWord "is" && !next.newline then
    let name ← predicateSubject
    advance
    let type ← rules .type
    nodeFrom start (.predicate false) [name, type]
  else rules .type

/-- A result type after a colon, if there is one. -/
def resultAnnotation? (rules : Rules) : Parser Tree := do
  if !(← read).types then return .absent
  else if ← eatMark ":" then allowingConditions (resultType rules)
  else return .absent

/-- A parameter of a function type. -/
def typeParameterOfFunction (rules : Rules) : Parser Tree := do
  let start ← here
  if ← eatMark "..." then
    let target ← rules .target
    let type ← typeAnnotation? rules
    let target ← if type.isPresent then nodeFrom target.span.start (.typed "") [target, type] else pure target
    nodeFrom start .rest [target]
  else if ← atWord "this" then receiverParameter rules
  else
    let target ← rules .target
    let optional ← eatMark "?"
    let type ← typeAnnotation? rules
    let target ←
      if optional || type.isPresent then nodeFrom start (.typed (if optional then "?" else "")) [target, type]
      else pure target
    nodeFrom start (.parameter []) [.node .decorators ⟨start, start⟩ [], target]

/-- The parameters of a function type. -/
def functionTypeParameters (rules : Rules) : Parser Tree := do
  let start ← here
  expectMark "("
  let items ← separatedWithRest ")" .restParameterNotLast (atMark "...") (typeParameterOfFunction rules)
  expectMark ")"
  nodeFrom start .parameters items

/-- A function type, or the type of a constructor with the given lead. -/
def functionType (rules : Rules) (start : Nat) (lead : String) : Parser Tree := do
  let typeParameters ← typeParameters? rules
  let parameters ← functionTypeParameters rules
  expectMark "=>"
  let result ← resultType rules
  nodeFrom start (.functionType lead) [typeParameters, parameters, result]

/-- An element of a tuple type. -/
def tupleElement (rules : Rules) : Parser Tree := do
  let start ← here
  if ← eatMark "..." then
    let next ← nextToken
    if (← kind).isAnyWord && next.kind.isMark ":" then
      let name ← wordKey
      advance
      let type ← rules .type
      let member ← nodeFrom name.span.start (.tupleMember false) [name, type]
      nodeFrom start .restType [member]
    else
      let type ← rules .type
      nodeFrom start .restType [type]
  else
    let named ← ahead (do
      let _ ← wordKey
      let _ ← eatMark "?"
      atMark ":")
    if named == some true then
      let name ← wordKey
      let optional ← eatMark "?"
      advance
      let type ← rules .type
      nodeFrom start (.tupleMember optional) [name, type]
    else
      let type ← rules .type
      if ← eatMark "?" then nodeFrom start .optionalType [type] else return type

/-- Reads the closing brace at the current token as the start of the next piece of a template. -/
def readTemplateRest : Parser Unit := do
  if ← atMark "\x7d" then rescan scanTemplateRest

/-- A template, whose first piece is the current token; `text` makes the node of a piece and `inner` reads what stands
between two pieces. A function that interprets the template also gets the pieces whose escapes have no meaning. -/
def templateOf (form : Form) (tagged : Bool) (text : String → Bool → Parser Tree) (inner : Parser Tree) :
    Parser Tree := do
  let start ← here
  loop (fun pieces => do
    match ← kind with
    | .template raw sound more =>
      let piece ← text raw more
      noteIf (!(sound || tagged)) .invalidTemplateEscape
      advance
      if more then
        let content ← inner
        readTemplateRest
        return .inl (content :: piece :: pieces)
      else return .inr (← nodeFrom start form (piece :: pieces).reverse)
    | _ => missing "\x7d") []

/-- A template type. -/
def templateType (rules : Rules) : Parser Tree :=
  templateOf .templateType false (fun raw _ => return .node (.templateText raw) (← token).span [])
    (allowingConditions (rules .type))

/-- Whether the braces at the current token hold a mapped type. -/
def atMappedType : Parser Bool := do
  let found ← ahead (do
    advance
    if (← eatMark "+") || (← eatMark "-") then expectWord "readonly" else let _ ← eatWord "readonly"
    expectMark "["
    let _ ← wordKey
    atWord "in")
  return found == some true

/-- A sign before a modifier of a mapped type. -/
def mappedSign : Parser String := do
  if ← eatMark "+" then return "+"
  else if ← eatMark "-" then return "-"
  else return ""

/-- A mapped type. -/
def mappedType (rules : Rules) : Parser Tree := do
  let start ← here
  advance
  let sign ← mappedSign
  let readonlyMark := if (← eatWord "readonly") then sign ++ "readonly" else ""
  expectMark "["
  let name ← wordKey
  advance
  let constraint ← allowingConditions (rules .type)
  let rename ← optionally (eatWord "as") (allowingConditions (rules .type))
  expectMark "]"
  let sign ← mappedSign
  let optionalMark := if (← eatMark "?") then sign ++ "?" else ""
  let type ← typeAnnotation? rules
  endMember
  expectMark "\x7d"
  nodeFrom start (.mappedType readonlyMark optionalMark) [name, constraint, rename, type]

/-- The members of an object type. -/
def typeMembers (rules : Rules) : Parser (List Tree) := do
  expectMark "\x7b"
  let members ← many atBlockEnd (do
    let member ← rules .typeMember
    endMember
    return member)
  expectMark "\x7d"
  return members

/-- The form of the literal that a token is. -/
def literalForm? : TokenKind → Option Form
  | .string value surrogates => some (.string value surrogates)
  | .number value raw => some (.number value raw)
  | .bigint value _ => some (.bigint value)
  | .word "true" _ => some (.boolean true)
  | .word "false" _ => some (.boolean false)
  | _ => none

/-- A literal, which has to be there. -/
def literalNode : Parser Tree := do
  let start ← here
  match literalForm? (← kind) with
  | some form =>
    advance
    nodeFrom start form []
  | none => unexpected

/-- A literal type. -/
def literalType : Parser Tree := do
  let start ← here
  let literal ←
    if ← eatMark "-" then do
      let number ← literalNode
      nodeFrom start (.unary "-") [number]
    else literalNode
  nodeFrom start .literalType [literal]

/-- A type that a module holds, whose `import` is the current token. -/
def importType (rules : Rules) : Parser Tree := do
  let start ← here
  advance
  expectMark "("
  let source ← allowingConditions (rules .type)
  expectMark ")"
  let qualifier ← optionally (eatMark ".") (qualifiedName wordKey)
  let arguments ← typeArguments? rules
  nodeFrom start .importType [source, qualifier, arguments]

/-- The type of a value, whose `typeof` is the current token. -/
def typeQuery (rules : Rules) : Parser Tree := do
  let start ← here
  advance
  if ← atWord "import" then
    let module ← importType rules
    nodeFrom start .typeQuery [module, .absent]
  else
    let name ← qualifiedName wordKey
    let arguments ← if ← onNewLine then pure .absent else typeArguments? rules
    nodeFrom start .typeQuery [name, arguments]

/-- A type without operators around it. -/
def primaryType (rules : Rules) : Parser Tree := do
  let start ← here
  match ← kind with
  | .mark "\x7b" =>
    if ← atMappedType then mappedType rules
    else
      let members ← typeMembers rules
      nodeFrom start .typeLiteral members
  | .mark "[" =>
    advance
    let (items, _) ← allowingConditions (separated "," "]" (tupleElement rules))
    expectMark "]"
    nodeFrom start .tupleType items
  | .mark "(" =>
    advance
    let type ← allowingConditions (rules .type)
    expectMark ")"
    nodeFrom start .parenType [type]
  | .template _ _ _ => templateType rules
  | .word "typeof" _ => typeQuery rules
  | .word "import" _ => importType rules
  | .word text _ =>
    let next ← nextToken
    if text == "true" || text == "false" then literalType
    else if keywordTypes.contains text && !next.kind.isMark "." then
      advance
      nodeFrom start (.typeKeyword text) []
    else typeReference rules
  | _ => literalType

/-- A type with array brackets and indices after it. -/
def postfixType (rules : Rules) : Parser Tree := do
  let start ← here
  let first ← primaryType rules
  loop (fun type => do
    if (← onNewLine) || !(← atMark "[") then return .inr type
    else
      advance
      if ← eatMark "]" then return .inl (← nodeFrom start .arrayType [type])
      else
        let index ← allowingConditions (rules .type)
        expectMark "]"
        return .inl (← nodeFrom start .indexedType [type, index])) first

/-- Whether a word before a type is an operator on it. -/
def atTypeOperator : Parser Bool := do
  let next ← nextToken
  let operand := match next.kind with
    | .word _ _ => true
    | .mark text => ["\x7b", "[", "("].contains text
    | .string _ _ => true
    | .template _ _ _ => true
    | _ => false
  return (← atAnyWord ["keyof", "unique", "readonly", "infer"]) && operand

/-- What an inferred type has to be, if that is said. Where a condition may follow, a question mark shows that the
words belong to it. -/
def inferConstraint (rules : Rules) : Parser Tree := do
  if ← atWord "extends" then
    let found ← attempt (do
      advance
      let constraint ← under (fun c => { c with conditionalTypes := false }) (rules .type)
      if (← read).conditionalTypes && (← atMark "?") then unexpected
      return constraint)
    return found.getD .absent
  else return .absent

/-- A type with operators before it, outermost first. -/
def operatorType (rules : Rules) : Parser Tree := do
  let operators ← many (do return !(← atTypeOperator)) (do
    let start ← here
    return (start, ← passWord))
  match operators.reverse with
  | (start, "infer") :: outer =>
    let inner ← here
    let name ← bindingName
    let constraint ← inferConstraint rules
    let parameter ← nodeFrom inner (.typeParameter []) [name, constraint, .absent]
    let type ← nodeFrom start .inferType [parameter]
    outer.foldlM (fun type (start, text) => nodeFrom start (.typeOperator text) [type]) type
  | operators =>
    let type ← postfixType rules
    operators.foldlM (fun type (start, text) => nodeFrom start (.typeOperator text) [type]) type

/-- Types joined by an operator; it may also stand before the first. -/
def joinedType (operator : String) (form : Form) (item : Parser Tree) : Parser Tree := do
  let start ← here
  let leading ← eatMark operator
  let first ← item
  if leading || (← atMark operator) then
    let more ← many (do return !(← atMark operator)) (do
      advance
      item)
    nodeFrom start form (first :: more)
  else return first

/-- A union of intersections. -/
def unionType (rules : Rules) : Parser Tree :=
  joinedType "|" .unionType (joinedType "&" .intersectionType (operatorType rules))

/-- Whether what follows an opening parenthesis shows that it opens parameters. -/
def opensParameters (rules : Rules) : Parser Bool := do
  advance
  if (← atMark ")") || (← atMark "...") then return true
  if (← atMark "\x7b") || (← atMark "[") then let _ ← rules .target
  else let _ ← wordKey
  if (← atMark ":") || (← atMark ",") || (← atMark "?") || (← atMark "=") then return true
  if ← eatMark ")" then atMark "=>" else return false

/-- Whether a function type starts at the current token. -/
def atFunctionType (rules : Rules) : Parser Bool := do
  if ← atMark "<" then return true
  else if ← atMark "(" then return (← ahead (opensParameters rules)) == some true
  else return false

/-- A type that depends on a condition, if one follows the checked type. -/
def conditionRest (rules : Rules) (start : Nat) (checked : Tree) : Parser Tree := do
  if (← read).conditionalTypes && !(← onNewLine) && (← atWord "extends") then
    advance
    let extended ← under (fun c => { c with conditionalTypes := false }) (rules .type)
    expectMark "?"
    let yes ← rules .type
    expectMark ":"
    let no ← rules .type
    nodeFrom start .conditionalType [checked, extended, yes, no]
  else return checked

/-- A type. -/
def parseType (rules : Rules) : Parser Tree := do
  let start ← here
  let next ← nextToken
  if ← atFunctionType rules then functionType rules start ""
  else if ← atWord "new" then
    advance
    functionType rules start "new "
  else if (← atWord "abstract") && next.kind.isWord "new" then
    advance
    advance
    functionType rules start "abstract new "
  else
    let checked ← unionType rules
    conditionRest rules start checked

/-- Whether an index signature starts at the current token. -/
def atIndexSignature : Parser Bool := do
  if ← atMark "[" then
    let found ← ahead (do
      advance
      let _ ← wordKey
      atMark ":")
    return found == some true
  else return false

/-- An index signature. -/
def indexSignature (rules : Rules) (start : Nat) (modifiers : List String) : Parser Tree := do
  expectMark "["
  let name ← bindingName
  expectMark ":"
  let index ← rules .type
  expectMark "]"
  let type ← typeAnnotation? rules
  nodeFrom start (.indexSignature modifiers) [name, index, type]

/-- A member of an object type. -/
def parseTypeMember (rules : Rules) : Parser Tree := do
  let start ← here
  if (← atMark "(") || (← atMark "<") then
    let typeParameters ← typeParameters? rules
    let parameters ← functionTypeParameters rules
    let result ← resultAnnotation? rules
    nodeFrom start (.callSignature "") [typeParameters, parameters, result]
  else
    let next ← nextToken
    if (← atWord "new") && (next.kind.isMark "(" || next.kind.isMark "<") then
      advance
      let typeParameters ← typeParameters? rules
      let parameters ← functionTypeParameters rules
      let result ← resultAnnotation? rules
      nodeFrom start (.callSignature "new ") [typeParameters, parameters, result]
    else
      let isReadonly := (← atWord "readonly") && startsKey next.kind
      if isReadonly then advance
      let modifiers := if isReadonly then ["readonly"] else []
      if ← atIndexSignature then indexSignature rules start modifiers
      else
        let next ← nextToken
        let gets := (← atWord "get") && startsKey next.kind
        let sets := (← atWord "set") && startsKey next.kind
        let kind := if gets then MethodKind.getter else if sets then .setter else .plain
        if gets || sets then advance
        let (key, computed) ← propertyKey rules
        let optional ← eatMark "?"
        if (← atMark "(") || (← atMark "<") then
          let typeParameters ← typeParameters? rules
          let parameters ← functionTypeParameters rules
          let result ← resultAnnotation? rules
          nodeFrom start (.methodSignature kind computed optional) [key, typeParameters, parameters, result]
        else
          let type ← typeAnnotation? rules
          nodeFrom start (.propertySignature modifiers computed optional) [key, type]

end JsxLowering.Grammar
