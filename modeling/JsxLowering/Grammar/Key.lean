import JsxLowering.Grammar.Basic

/-!
# Keys

The keys of object properties, class members and members of object types.
-/

namespace JsxLowering.Grammar

/-- The key of a member: its node and whether it is computed. -/
def propertyKey (rules : Rules) : Parser (Tree × Bool) := do
  let start ← here
  match ← kind with
  | .string value surrogates => do
    advance
    return (← nodeFrom start (.string value surrogates) [], false)
  | .number value raw => do
    advance
    return (← nodeFrom start (.number value raw) [], false)
  | .bigint value _ => do
    advance
    return (← nodeFrom start (.bigint value) [], false)
  | .mark "[" => do
    advance
    let key ← allowingIn (rules .assignment)
    expectMark "]"
    return (key, true)
  | _ => return (← wordKey, false)

/-- The key of a member of a class, which may be private. -/
def memberKey (rules : Rules) : Parser (Tree × Bool) := do
  match ← kind with
  | .privateName text => do
    let start ← here
    advance
    return (← nodeFrom start (.privateName text) [], false)
  | _ => propertyKey rules

/-- Whether a token can start the key of a member. -/
def startsKey : TokenKind → Bool
  | .word _ _ => true
  | .privateName _ => true
  | .string _ _ => true
  | .number _ _ => true
  | .bigint _ _ => true
  | .mark text => text == "["
  | _ => false

/-- Whether the token after a word shows that the word modifies what follows. -/
def modifies (next : Token) : Bool :=
  startsKey next.kind || next.kind.isMark "*" || next.kind.isMark "\x7b" || next.kind.isMark "..."

/-- Whether the current token is the given word, before the key of a getter or setter. -/
def atAccessor (text : String) : Parser Bool := do
  if ← atWord text then return modifies (← nextToken) else return false

end JsxLowering.Grammar
