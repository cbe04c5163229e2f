import JsxLowering.Grammar.Function

/-!
# Classes

Class declarations and expressions with their members: methods, accessors, fields, static blocks and, where
types are allowed, index signatures.
-/

namespace JsxLowering.Grammar

/-- The words that may stand before the key of a member. -/
def memberModifierWords (types : Bool) : List String :=
  if types then
    ["static", "accessor", "declare", "public", "private", "protected", "abstract", "override", "readonly"]
  else ["static", "accessor"]

/-- Whether a static block starts at the current token. -/
def atStaticBlock : Parser Bool := do
  if ← atWord "static" then return (← nextToken).kind.isMark "\x7b" else return false

/-- The modifiers of a member, as far as they come before `async`, `get` and `set`. A second `static` is a key. -/
def memberModifiers : Parser (List String) := do
  let words := memberModifierWords (← read).types
  loop (fun seen => do
    let isStatic ← atWord "static"
    let next ← nextToken
    let modifier := modifies next && (isStatic || !next.newline) && !(isStatic && seen.contains "static")
    if (← atAnyWord words) && modifier && !(← atStaticBlock) then return .inl ((← passWord) :: seen)
    else return .inr seen.reverse) []

/-- The text of a key that is not computed. -/
def keyText? : Tree → Option String
  | .node (.key text) _ _ => some text
  | .node (.string value _) _ _ => some value
  | _ => none

/-- Notes what no member of a class may be called. -/
def checkMemberName (modifiers : List String) (key : Tree) (computed : Bool) : Parser Unit := do
  match key with
  | .node (.privateName text) _ _ => noteIf (text == "constructor") .privateConstructor
  | _ =>
    noteIf (!computed && modifiers.contains "static" && keyText? key == some "prototype") .staticPrototype

/-- Whether a member that is not static is the constructor. -/
def isConstructorKey (modifiers : List String) (key : Tree) (computed : Bool) : Bool :=
  !computed && !modifiers.contains "static" && keyText? key == some "constructor"

/-- A field, whose key has been passed. -/
def fieldRest (rules : Rules) (start : Nat) (modifiers : List String) (decorators key : Tree)
    (computed : Bool) (mark : String) : Parser Tree := do
  let type ← typeAnnotation? rules
  let value ←
    if ← eatMark "=" then
      let start ← here
      let value ← under (fun c => { c with
        inOperator := true, awaitOperator := false, yieldOperator := false, arrowResult := true })
        (rules .assignment)
      nodeFrom start .fieldValue [value]
    else pure .absent
  endStatement
  checkMemberName modifiers key computed
  noteIf (!computed && keyText? key == some "constructor") .fieldConstructor
  nodeFrom start (.field modifiers computed mark) [decorators, key, type, value]

/-- A mark after the key of a member. -/
def memberMark : Parser String := do
  if (← read).types then
    if ← eatMark "?" then return "?"
    else if (← atMark "!") && !(← onNewLine) then
      advance
      return "!"
    else return ""
  else return ""

/-- A getter or setter, whose first word has been passed. -/
def classAccessor (rules : Rules) (start : Nat) (decorators : Tree) (modifiers : List String)
    (kind : MethodKind) : Parser Tree := do
  let (key, computed) ← memberKey rules
  let function ← methodFunction rules false false
  checkAccessor kind function
  noteIf (isConstructorKey modifiers key computed) .accessorConstructor
  checkMemberName modifiers key computed
  nodeFrom start (.method modifiers kind computed false) [decorators, key, function]

/-- A method or a field. -/
def methodOrField (rules : Rules) (start : Nat) (decorators : Tree) (modifiers : List String) : Parser Tree := do
  let next ← nextToken
  let async := (← atWord "async") && modifies next && !next.newline
  if async then advance
  let generator ← eatMark "*"
  let (key, computed) ← memberKey rules
  let mark ← memberMark
  let isMethod := async || generator || (← atMark "(") || (← atMark "<")
  if isMethod && !modifiers.contains "accessor" then
    let function ← methodFunction rules async generator
    if isConstructorKey modifiers key computed then
      noteIf async .asyncConstructor
      noteIf generator .generatorConstructor
    checkMemberName modifiers key computed
    nodeFrom start (.method modifiers .plain computed (mark == "?")) [decorators, key, function]
  else fieldRest rules start modifiers decorators key computed mark

/-- A member of a class. -/
def parseMember (rules : Rules) : Parser Tree := do
  let start ← here
  let decorators ← parseDecorators rules
  let modifiers ← memberModifiers
  if ← atStaticBlock then
    advance
    advance
    let statements ← under (fun c => { c with awaitOperator := true, yieldOperator := false, inFunction := false })
      (many atBlockEnd (rules (.statement false)))
    expectMark "\x7d"
    nodeFrom start .staticBlock statements
  else if ← atAccessor "get" then
    advance
    classAccessor rules start decorators modifiers .getter
  else if ← atAccessor "set" then
    advance
    classAccessor rules start decorators modifiers .setter
  else if (← read).types && (← atIndexSignature) then
    let signature ← indexSignature rules start modifiers
    endMember
    return signature
  else methodOrField rules start decorators modifiers

/-- The body of a class. -/
def parseClassBody (rules : Rules) : Parser Tree := do
  let start ← here
  expectMark "\x7b"
  let members ← many atBlockEnd (do
    if ← eatMark ";" then return none
    else return some (← parseMember rules))
  expectMark "\x7d"
  nodeFrom start .classBody (members.filterMap id)

/-- A type that a class or an interface builds on. -/
def parseHeritage (rules : Rules) : Parser Tree := do
  let start ← here
  let name ← qualifiedName wordKey
  let arguments ← typeArguments? rules
  nodeFrom start .heritage [name, arguments]

/-- Types that are separated by commas. -/
def heritageList (rules : Rules) : Parser Tree := do
  let start ← here
  let first ← parseHeritage rules
  let more ← many (do return !(← atMark ",")) (do
    advance
    parseHeritage rules)
  nodeFrom start .list (first :: more)

/-- What a class builds on: its superclass with type arguments, and the types that it implements. -/
structure Heritage where
  superclass : Option (Tree × Tree)
  implemented : Option Tree

/-- The parts of a class that say what it builds on. -/
def Heritage.parts (heritage : Heritage) : List Tree :=
  match heritage.superclass with
  | some (superclass, arguments) => [superclass, arguments, heritage.implemented.getD .absent]
  | none => [.absent, .absent, heritage.implemented.getD .absent]

/-- A superclass, with its type arguments. Only the first of several counts. -/
def parseSuperclass (rules : Rules) : Parser (Tree × Tree) := do
  let first ← rules .leftHandSide
  let _ ← many (do return !(← atMark ",")) (do
    advance
    let _ ← rules .leftHandSide
    note .severalSuperclasses)
  match first with
  | .node .instantiation _ [expression, arguments] => return (expression, arguments)
  | expression => return (expression, .absent)

/-- One more clause of what a class builds on, if there is one. -/
def heritageClause (rules : Rules) (found : Heritage) : Parser (Heritage ⊕ Heritage) := do
  if ← atWord "extends" then
    if found.superclass.isSome then note .secondExtends
    else if found.implemented.isSome then note .lateExtends
    advance
    return .inl { found with superclass := some (← parseSuperclass rules) }
  else if ← atWord "implements" then
    noteIf found.implemented.isSome .secondImplements
    advance
    return .inl { found with implemented := some (← heritageList rules) }
  else return .inr found

/-- What stands between the name and the body of a class. -/
def parseHeritageClauses (rules : Rules) : Parser Heritage := loop (heritageClause rules) ⟨none, none⟩

/-- Whether the current token is the name of a class. -/
def atClassName : Parser Bool := do
  let next ← nextToken
  return (← kind).isName && !((← atWord "implements") && next.kind.isAnyWord)

/-- A class whose keyword is the current token. -/
def parseClass (rules : Rules) (start : Nat) (role : Role) (modifiers : List String) (decorators : Tree) :
    Parser Tree := do
  expectWord "class"
  let name ← optionally atClassName bindingName
  let typeParameters ← typeParameters? rules
  let heritage ← parseHeritageClauses rules
  let body ← parseClassBody rules
  nodeFrom start (.classDefinition role modifiers)
    ([decorators, name, typeParameters] ++ heritage.parts ++ [body])

end JsxLowering.Grammar
