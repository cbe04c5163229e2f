import JsxLowering.Grammar.Expression

/-!
# Declarations of types

Interfaces, type aliases, enumerations and namespaces.
-/

namespace JsxLowering.Grammar

/-- An interface, whose keyword is the current token. -/
def parseInterface (rules : Rules) (start : Nat) (declared : Bool) : Parser Tree := do
  advance
  let name ← bindingName
  let typeParameters ← typeParameters? rules
  let extended ← optionally (eatWord "extends") (heritageList rules)
  let bodyStart ← here
  let members ← typeMembers rules
  let body ← nodeFrom bodyStart .interfaceBody members
  nodeFrom start (.interface declared) [name, typeParameters, extended, body]

/-- A type alias, whose keyword is the current token. -/
def parseTypeAlias (rules : Rules) (start : Nat) (declared : Bool) : Parser Tree := do
  advance
  let name ← bindingName
  let typeParameters ← typeParameters? rules
  expectMark "="
  let type ← rules .type
  endStatement
  nodeFrom start (.typeAlias declared) [name, typeParameters, type]

/-- A member of an enumeration. -/
def parseEnumMember (rules : Rules) : Parser Tree := do
  let start ← here
  let (key, computed) ← propertyKey rules
  let value ← optionally (eatMark "=") (allowingIn (rules .assignment))
  nodeFrom start (.enumMember computed) [key, value]

/-- An enumeration, whose keyword is the current token. -/
def parseEnum (rules : Rules) (start : Nat) (modifiers : List String) : Parser Tree := do
  advance
  let name ← bindingName
  let bodyStart ← here
  expectMark "\x7b"
  let (members, _) ← separated "," "\x7d" (parseEnumMember rules)
  expectMark "\x7d"
  let body ← nodeFrom bodyStart .enumBody members
  nodeFrom start (.enum modifiers) [name, body]

/-- A name or a string of a namespace. -/
def namespaceName : Parser Tree := do
  match ← kind with
  | .string _ _ => stringNode
  | _ => qualifiedName bindingName

/-- A namespace, whose keyword is the current token; `global` is a keyword and a name at once. -/
def parseNamespace (rules : Rules) (start : Nat) (declared : Bool) : Parser Tree := do
  let isGlobal ← atWord "global"
  let isModule ← atWord "module"
  let keyword := if isGlobal then "global" else if isModule then "module" else "namespace"
  unless isGlobal do advance
  let name ← namespaceName
  if ← atMark "\x7b" then
    let bodyStart ← here
    advance
    let statements ← under (fun c => { c with ambient := declared || c.ambient })
      (parseStatements rules atBlockEnd)
    expectMark "\x7d"
    let body ← nodeFrom bodyStart .moduleBody statements
    nodeFrom start (.moduleBlock keyword declared) [name, body]
  else
    endStatement
    nodeFrom start (.moduleBlock keyword declared) [name, .absent]

end JsxLowering.Grammar
