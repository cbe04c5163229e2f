import JsxLowering.Token.Scan
import JsxLowering.Tree

/-!
# Parsing

A parser reads tokens from a place in a source text, under conditions that depend on the constructs around it.
It either fails with all faults found so far or answers with a result and a new place; a fault that does not end the
parse is noted. The recursion of the grammar is left open: a rule that needs another construct asks for it by name
(`Construct`), and the knot is tied once for the whole grammar.
-/

namespace JsxLowering.Grammar

/-- The conditions under which a construct is read. -/
structure Conditions where
  /-- A bound for the rounds of every loop: more than the characters of the source. -/
  budget : Nat
  /-- Whether markup is allowed. -/
  markup : Bool
  /-- Whether types are allowed. -/
  types : Bool
  /-- Whether `in` is an operator. -/
  inOperator : Bool
  /-- Whether `yield` is an operator. -/
  yieldOperator : Bool
  /-- Whether `await` is an operator. -/
  awaitOperator : Bool
  /-- Whether `return` is allowed. -/
  inFunction : Bool
  /-- Whether an arrow function may state its result type. -/
  arrowResult : Bool
  /-- Whether only declarations are read, so that constants need no value. -/
  ambient : Bool
  /-- Whether the expression of a decorator is read, which holds no index. -/
  decorating : Bool
  /-- Whether a type may be one that depends on a condition. -/
  conditionalTypes : Bool

/-- Why a parse ended. -/
structure Failure where
  /-- Everything that is wrong so far. -/
  faults : List Fault
  /-- The first comment of the text. -/
  opening : Option Comment

/-- A parser. -/
abbrev Parser := ReaderT Conditions (StateT Reader (Except Failure))

/-- The constructs that rules ask for by name. -/
inductive Construct where
  /-- An expression, with commas. -/
  | expression
  /-- An expression without commas. -/
  | assignment
  /-- Operands of operators that bind tighter than the given level. -/
  | operand (level : Nat)
  /-- An operand of a prefix operator. -/
  | unary
  /-- A member, call or `new` expression. -/
  | leftHandSide
  /-- An expression with `new`. -/
  | construction
  /-- A statement; `alone` says that it stands where only one may. -/
  | statement (alone : Bool)
  /-- A target of a binding. -/
  | target
  /-- An element or fragment whose `<` is the current token; `nested` says that it stands among children. -/
  | markup (nested : Bool)
  /-- A type. -/
  | type
  /-- A member of an object type. -/
  | typeMember

/-- What reading a construct gives. -/
@[reducible] def Construct.Result : Construct → Type
  | markup _ => Markup
  | _ => Tree

/-- How to read each construct. -/
abbrev Rules := (construct : Construct) → Parser construct.Result

section

variable {α β σ : Type}

/-! ### Failing -/

/-- Ends the parse. -/
def fail (fault : Fault) : Parser α := fun _ r => .error ⟨r.allFaults [fault], r.opening⟩

/-- Ends the parse at a token that cannot stand here. Where the text is no token, or ends too early, the reason for that
is the cause. -/
def unexpected : Parser α := fun c r =>
  match r.token.kind, r.tokenFaults with
  | .invalid, cause :: earlier => fail cause c { r with tokenFaults := earlier }
  | .eof, cause :: earlier => fail cause c { r with tokenFaults := earlier }
  | _, _ => fail .unexpectedToken c r

/-- Notes a fault and goes on. -/
def note (fault : Fault) : Parser Unit := modify fun r => { r with faults := fault :: r.faults }

/-- Notes a fault if something is wrong. -/
def noteIf (wrong : Bool) (fault : Fault) : Parser Unit := do
  if wrong then note fault

/-- Tries a parser; if it fails, the place is as before. -/
def attempt (p : Parser α) : Parser (Option α) := fun c r =>
  match p c r with
  | .ok (a, r') => .ok (some a, r')
  | .error _ => .ok (none, r)

/-- If the parser answers with nothing, the place is as before. -/
def orStay (p : Parser (Option α)) : Parser (Option α) := fun c r =>
  match p c r with
  | .ok (some a, r') => .ok (some a, r')
  | .ok (none, _) => .ok (none, r)
  | .error failure => .error failure

/-- What a parser would answer, without moving; `none` if it fails. -/
def ahead (p : Parser α) : Parser (Option α) := fun c r =>
  match p c r with
  | .ok (a, _) => .ok (some a, r)
  | .error _ => .ok (none, r)

/-! ### Tokens -/

/-- The current token. -/
def token : Parser Token := return (← get).token

/-- The kind of the current token. -/
def kind : Parser TokenKind := return (← get).token.kind

/-- Moves to the next token, whatever the current one is. -/
def pass : Parser Unit := modify Reader.advance

/-- Moves to the next token. A word that is passed as a keyword has no escapes. -/
def advance : Parser Unit := do
  noteIf (← kind).isEscapedKeyword .escapedKeyword
  pass

/-- Whether the current token is the given mark. -/
def atMark (text : String) : Parser Bool := return (← kind).isMark text

/-- Whether the current token is the given word. -/
def atWord (text : String) : Parser Bool := return (← kind).isWord text

/-- Whether the current token is one of the given words. -/
def atAnyWord (texts : List String) : Parser Bool := do
  match ← kind with
  | .word text _ => return texts.contains text
  | _ => return false

/-- Passes the given mark if it is there. -/
def eatMark (text : String) : Parser Bool := do
  if ← atMark text then
    advance
    return true
  else return false

/-- Passes the given word if it is there. -/
def eatWord (text : String) : Parser Bool := do
  if ← atWord text then
    advance
    return true
  else return false

/-- Ends the parse because the given token was needed. -/
def missing (text : String) : Parser α := do
  fail (.expected text (← kind).describe)

/-- Passes the given mark, which has to be there. -/
def expectMark (text : String) : Parser Unit := do
  if ← atMark text then advance else missing text

/-- Passes the given word, which has to be there. -/
def expectWord (text : String) : Parser Unit := do
  if ← atWord text then advance else missing text

/-- Whether a line ends before the current token. -/
def onNewLine : Parser Bool := return (← token).newline

/-- The kind of the token after the current one, and whether a line ends before it. -/
def nextToken : Parser Token := return (← get).advance.token

/-- Reads the current token again. -/
def rescan (scan : List Char → Scanned) : Parser Unit := modify (Reader.rescan scan)

/-! ### Spans -/

/-- Where the current token starts. -/
def here : Parser Nat := return (← token).start

/-- The span from an offset to the end of the last token passed. -/
def spanFrom (start : Nat) : Parser Span := return ⟨start, (← get).lastStop⟩

/-- A node from an offset to the end of the last token passed. -/
def nodeFrom (start : Nat) (form : Form) (parts : List Tree) : Parser Tree :=
  return .node form (← spanFrom start) parts

/-- A node without parts. -/
structure Leaf where
  form : Form
  span : Span

/-- The leaf as a tree. -/
def Leaf.tree (leaf : Leaf) : Tree := .node leaf.form leaf.span []

/-- A leaf from an offset to the end of the last token passed. -/
def leafFrom (start : Nat) (form : Form) : Parser Leaf := return ⟨form, ← spanFrom start⟩

/-! ### Loops -/

/-- Repeats a step until it gives a result, for at most `fuel` rounds. -/
def iterate (step : σ → Parser (σ ⊕ α)) : Nat → σ → Parser α
  | 0, _ => unexpected
  | fuel + 1, state => do
    match ← step state with
    | .inl state => iterate step fuel state
    | .inr result => return result

/-- Repeats a step until it gives a result. -/
def loop (step : σ → Parser (σ ⊕ α)) (state : σ) : Parser α := do
  iterate step (← read).budget state

/-- Reads items until `done` says so. -/
def many (done : Parser Bool) (item : Parser α) : Parser (List α) :=
  loop (fun items => do
    if ← done then return .inr items.reverse
    else return .inl ((← item) :: items)) []

/-- Whether a list ends here: at its closing mark, or where the text goes no further. -/
def atListEnd (closing : String) : Parser Bool := do
  let k ← kind
  return k.isMark closing || k == .eof || k == .invalid

/-- Reads items with separators between them, up to the closing mark, which stays. The second result says whether a
separator stands before the closing mark. -/
def separated (separator closing : String) (item : Parser α) : Parser (List α × Bool) := do
  if ← atListEnd closing then return ([], false)
  let first ← item
  loop (fun items => do
    if ← atListEnd closing then return .inr (items.reverse, false)
    else if ← eatMark separator then
      if ← atMark closing then return .inr (items.reverse, true)
      else return .inl ((← item) :: items)
    else fail (.expectedOneOf separator closing (← kind).describe)) [first]

/-- Reads items with commas between them, up to the closing mark, which stays. An item that `rest` starts has to come
last, without a comma after it; `notLast` is the fault where it does not. -/
def separatedWithRest (closing : String) (notLast : Fault) (rest : Parser Bool) (item : Parser α) :
    Parser (List α) := do
  if ← atListEnd closing then return []
  let isRest ← rest
  let first ← item
  loop (fun (items, afterRest) => do
    if ← atListEnd closing then return .inr items.reverse
    else if ← eatMark "," then
      if ← atMark closing then
        noteIf (afterRest && !(← read).ambient) .commaAfterRest
        return .inr items.reverse
      else
        noteIf afterRest notLast
        let isRest ← rest
        return .inl ((← item) :: items, afterRest || isRest)
    else fail (.expectedOneOf "," closing (← kind).describe)) ([first], isRest)

/-! ### Conditions -/

/-- Reads under changed conditions. -/
def under (change : Conditions → Conditions) (p : Parser α) : Parser α := fun c => p (change c)

/-- Reads where `in` is an operator and what is read ends by itself. -/
def allowingIn (p : Parser α) : Parser α :=
  under (fun c => { c with inOperator := true, arrowResult := true }) p

/-- Reads between brackets. -/
def inBrackets (p : Parser α) : Parser α :=
  under (fun c => { c with inOperator := true, arrowResult := true, decorating := false }) p

/-- Reads a type that may depend on a condition. -/
def allowingConditions (p : Parser α) : Parser α := under (fun c => { c with conditionalTypes := true }) p

end

/-- Reads a part if `test` says that it is written. -/
def optionally (test : Parser Bool) (p : Parser Tree) : Parser Tree := do
  if ← test then p else return .absent

/-! ### Statement ends -/

/-- Whether a block ends here. -/
def atBlockEnd : Parser Bool := do
  return (← atMark "\x7d") || (← kind) == .eof

/-- Passes the end of a statement: a semicolon, or a place where one may be left out. -/
def endStatement : Parser Unit := do
  if ← eatMark ";" then return
  let t ← token
  if t.kind.isMark "\x7d" || t.kind == .eof || t.newline then return
  fail .missingSemicolon

/-- Passes the end of a member of a type: a comma, or the end of a statement. -/
def endMember : Parser Unit := do
  if ← atMark "," then advance else endStatement

/-! ### Names -/

/-- Notes that a word which is an operator here stands as a name. -/
def checkName (text : String) : Parser Unit := do
  let c ← read
  noteIf (text == "await" && c.awaitOperator) (.nameInAsync text)
  noteIf (text == "yield" && c.yieldOperator) (.nameInGenerator text)

/-- The text of a word that refers to something. -/
def nameText : Parser String := do
  match ← kind with
  | .word text escaped =>
    if (TokenKind.word text escaped).isName then
      checkName text
      pass
      return text
    else unexpected
  | _ => unexpected

/-- The text of a word that is bound here. -/
def bindingText : Parser String := do
  match ← kind with
  | .word text escaped =>
    if (TokenKind.word text escaped).isName then
      checkName text
      pass
      return text
    else fail (.reservedName text)
  | _ => fail .nameExpected

/-- A name that is bound here. -/
def bindingName : Parser Tree := do
  let start ← here
  let text ← bindingText
  nodeFrom start (.binding text) []

/-- A name that any word may be, as a leaf. -/
def wordLeaf : Parser Leaf := do
  match ← kind with
  | .word text _ =>
    let start ← here
    pass
    leafFrom start (.key text)
  | _ => unexpected

/-- A name that any word may be, as after a dot. -/
def wordKey : Parser Tree := return (← wordLeaf).tree

/-- The word at the current token, which is passed as a keyword. -/
def passWord : Parser String := do
  match ← kind with
  | .word text _ =>
    advance
    return text
  | _ => unexpected

/-- A string, as a leaf. -/
def stringLeaf : Parser Leaf := do
  match ← kind with
  | .string value surrogates =>
    let start ← here
    advance
    leafFrom start (.string value surrogates)
  | _ => unexpected

/-- A string, as a module source or key. -/
def stringNode : Parser Tree := return (← stringLeaf).tree

end JsxLowering.Grammar
