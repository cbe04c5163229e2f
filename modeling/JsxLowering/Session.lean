import JsxLowering.Transform

/-!
# Sessions

A session applies the parts of the lowering one by one to the markup that a source text starts with. Its steps share
nothing but the names of the methods and the list of hints, which grows from step to step.
-/

namespace JsxLowering

/-- What is done to the markup that a source text starts with. -/
inductive Action where
  /-- Classifies the name of an element. -/
  | tag
  /-- Lowers the attributes of an element. -/
  | attributes
  /-- Lowers the children. -/
  | children
  /-- Lowers the whole. -/
  | element
  deriving DecidableEq, Repr

/-- A step of a session. -/
inductive SessionStep where
  /-- Makes the literal of a text. -/
  | literal (text : String)
  /-- Acts on the markup of a source text; `bound` says whether there is a receiver, `recover` that faults which do not
  end the parse are passed over. -/
  | act (action : Action) (source : String) (bound recover : Bool)
  deriving DecidableEq, Repr

/-- What a step gives. -/
inductive SessionValue where
  /-- An expression. -/
  | expression (tree : Tree)
  /-- The name of an element and its tag. -/
  | tag (name : ElementName) (tag : Tag)
  /-- The names of attributes, none for a spread, and the object they become. -/
  | attributes (names : List (Option String)) (value : Option Tree)
  /-- The arguments that children become. -/
  | children (trees : List Tree)

/-- Why a step gives nothing. -/
inductive SessionError where
  /-- The source text does not parse. -/
  | parse (faults : List Fault)
  /-- The source text does not start with markup. -/
  | noElement
  deriving DecidableEq, Repr

/-- The markup that a program starts with. -/
def Tree.firstMarkup? (program : Tree) : Option Markup :=
  match program.parts.dropWhile isDirective with
  | .node .expressionStatement _ [.markup m] :: _ => some m
  | _ => none
where
  /-- Whether a statement is a directive. -/
  isDirective : Tree → Bool
    | .node (.directive _) _ _ => true
    | _ => false

/-- The markup that a source text starts with. -/
def markupOf (source : String) (recover : Bool) : Except SessionError Markup :=
  match parse .standard source with
  | .error faults => if recover then .error .noElement else .error (.parse faults)
  | .ok parsed =>
    if !parsed.faults.isEmpty && !recover then .error (.parse parsed.faults)
    else
      match parsed.tree.firstMarkup? with
      | some m => .ok m
      | none => .error .noElement

/-- The name of an attribute, none for a spread. -/
def Attribute.name? : Attribute → Option String
  | .named _ name _ => some name.text
  | .spread _ _ => none

/-- Acts on markup. A fragment has neither name nor attributes, and is lowered instead. -/
def Markup.act (names : MethodNames) (bound : Bool) (action : Action) (markup : Markup) (m : Type → Type := Logged)
    [Monad m] [Reports m] : m SessionValue :=
  match action, markup with
  | .tag, .element _ name _ _ => return .tag name (name.tag bound)
  | .attributes, .element _ _ attributes _ => do
    let properties ← lowerAttributes names bound attributes m
    return .attributes (attributes.map Attribute.name?) (attributeObject? attributes properties)
  | .children, .element _ _ _ children => return .children (← lowerChildren names bound children m)
  | .children, .fragment _ children => return .children (← lowerChildren names bound children m)
  | _, markup => return .expression (← markup.lower names bound m)

/-- Acts on the markup of a source text, if it was read. -/
def actOn (names : MethodNames) (bound : Bool) (action : Action) (read : Except SessionError Markup)
    (m : Type → Type := Logged) [Monad m] [Reports m] : m (Except SessionError SessionValue) :=
  match read with
  | .error error => return .error error
  | .ok markup => return .ok (← markup.act names bound action m)

namespace SessionStep

/-- Runs a step. -/
def run (names : MethodNames) (step : SessionStep) (m : Type → Type := Logged) [Monad m] [Reports m] :
    m (Except SessionError SessionValue) :=
  match step with
  | literal text => return .ok (.expression (names.literalCall ⟨0, text.utf8ByteSize⟩ text))
  | act action source bound recover => actOn names bound action (markupOf source recover) m

end SessionStep

/-- Runs the steps of a session that has recorded hints already. Every answer comes with all hints so far. -/
def runSession (names : MethodNames) (hints : List Span) :
    List SessionStep → List (Except SessionError SessionValue × List Span)
  | [] => []
  | step :: rest =>
    let result := step.run names
    (result.value, hints ++ result.hints) :: runSession names (hints ++ result.hints) rest

end JsxLowering
