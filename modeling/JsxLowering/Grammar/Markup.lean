import JsxLowering.Grammar.Type

/-!
# Markup

Elements and fragments. What follows a tag or a closing brace among the children of an element is read as text,
up to the next tag or brace; everything inside a tag is read as tokens of the host language. A closing tag that
does not match is noted as a fault and then taken for the right one.
-/

namespace JsxLowering.Grammar

/-- Passes the given mark, which has to be there, on to what follows it among children. -/
def expectBeforeChild (text : String) : Parser Unit := do
  if ← atMark text then modify Reader.advanceToChild else missing text

/-- Passes the mark that closes a tag; `nested` says that the element stands among children. -/
def closeTag (nested : Bool) : Parser Unit := do
  if ← atMark ">" then modify (if nested then Reader.advanceToChild else Reader.advance) else missing ">"

/-- Passes the mark that closes the last tag of markup, and gives the span of all of it. -/
def closeMarkup (start : Nat) (nested : Bool) : Parser Span := do
  closeTag nested
  spanFrom start

/-- A name in a tag: a word, continued by hyphens and characters of names. It is taken as it is written. -/
def tagWord : Parser (Span × String) := do
  unless (← kind).isAnyWord do unexpected
  let r ← get
  let length := (readWord true 0 r.here).length
  let tail := match r.here.drop length with
    | rest@('-' :: _) => rest.takeWhile fun c => c = '-' || Text.continuesIdentifier c
    | _ => []
  let raw := String.ofList (r.here.take (length + tail.length))
  rescan fun _ => .sound (.word raw false) (length + tail.length)
  let start ← here
  pass
  return (← spanFrom start, raw)

/-- The head of a dotted name. -/
def dottedHead (span : Span) (name : String) : DottedName :=
  if name == "this" then .self span else .head span name

/-- The rest of a dotted name, whose first dot is the current token. -/
def dottedName (start : Nat) (object : DottedName) : Parser ElementName := do
  loop (fun (object : DottedName) => do
    advance
    let (propertySpan, property) ← tagWord
    if property.toList.contains '-' then fail .hyphenInMember
    let span ← spanFrom start
    if ← atMark "." then return .inl (.dot span object propertySpan property)
    else return .inr (ElementName.dotted span object propertySpan property)) object

/-- The name of an element. -/
def elementName : Parser ElementName := do
  let start ← here
  let (span, name) ← tagWord
  if ← eatMark ":" then
    let (_, localName) ← tagWord
    return .namespaced (← spanFrom start) name localName
  else if ← atMark "." then dottedName start (dottedHead span name)
  else if name == "this" then return .self span
  else return .plain span name

/-- The name of an attribute. -/
def attributeName : Parser AttributeName := do
  let start ← here
  let (span, name) ← tagWord
  if ← eatMark ":" then
    let (_, localName) ← tagWord
    return .namespaced (← spanFrom start) name localName
  else return .plain span name

/-- The value of an attribute, whose first token is the current one. -/
def attributeValue (rules : Rules) : Parser AttributeValue := do
  let t ← token
  match t.kind with
  | .string raw _ =>
    advance
    return .text t.span raw
  | .mark "\x7b" =>
    advance
    if ← atMark "\x7d" then
      note .emptyAttribute
      advance
      return .empty
    else
      let content ← allowingIn (rules .expression)
      expectMark "\x7d"
      return .expression content
  | .mark "<" => return .markup (← rules (.markup false))
  | _ => unexpected

/-- An attribute. -/
def parseAttribute (rules : Rules) : Parser Attribute := do
  let start ← here
  if ← eatMark "\x7b" then
    expectMark "..."
    let argument ← allowingIn (rules .expression)
    expectMark "\x7d"
    return .spread (← spanFrom start) argument
  else
    let name ← attributeName
    let value ←
      if ← atMark "=" then
        modify Reader.advanceToValue
        attributeValue rules
      else pure .missing
    return .named (← spanFrom start) name value

/-- The attributes up to the end of an opening tag. -/
def parseAttributes (rules : Rules) : Parser (List Attribute) :=
  many (do return (← atMark "<") || (← atMark ">") || (← atMark "/")) (parseAttribute rules)

/-- A child; the current token is not the start of a closing tag. -/
def parseChild (rules : Rules) : Parser Child := do
  let t ← token
  match t.kind with
  | .markupText raw =>
    modify Reader.advanceToChild
    return .text t.span raw
  | .mark "<" => return .markup (← rules (.markup true))
  | .mark "\x7b" =>
    advance
    if ← eatMark "..." then
      let argument ← allowingIn (rules .expression)
      expectBeforeChild "\x7d"
      return .spread (← spanFrom t.start) argument
    else if ← atMark "\x7d" then
      expectBeforeChild "\x7d"
      return .empty
    else
      let content ← allowingIn (rules .expression)
      expectBeforeChild "\x7d"
      return .expression content
  | _ => unexpected

/-- Whether the current token starts a closing tag. -/
def atClosingTag : Parser Bool := do
  if ← atMark "<" then return (← nextToken).kind.isMark "/" else return false

/-- The children up to a closing tag, which is passed up to its name. -/
def parseChildren (rules : Rules) : Parser (List Child) := do
  let children ← many atClosingTag (parseChild rules)
  advance
  advance
  return children

/-- The rest of a fragment whose opening bracket has been passed. -/
def parseFragment (rules : Rules) (start : Nat) (nested : Bool) : Parser Markup := do
  expectBeforeChild ">"
  let children ← parseChildren rules
  let span ← closeMarkup start nested
  return .fragment span children

/-- Passes type arguments after the name of an element. They carry no meaning. -/
def skipTypeArguments (rules : Rules) : Parser Unit := do
  if (← read).types && (← atMark "<") then
    let _ ← attempt (typeArguments rules)

/-- The rest of an element whose opening bracket has been passed. -/
def parseElement (rules : Rules) (start : Nat) (nested : Bool) : Parser Markup := do
  let text := (← get).here
  let name ← elementName
  skipTypeArguments rules
  let attributes ← parseAttributes rules
  if ← eatMark "/" then
    let span ← closeMarkup start nested
    return .element span name attributes []
  else
    expectBeforeChild ">"
    let children ← parseChildren rules
    let closing ← elementName
    let span ← closeMarkup start nested
    noteIf (closing.text != name.text)
      (.closingTag (String.ofList (Text.takeBytes (name.span.stop - name.span.start) text)))
    return .element span name attributes children

/-- An element or a fragment; the current token is its opening bracket. -/
def parseMarkup (rules : Rules) (nested : Bool) : Parser Markup := do
  let start ← here
  advance
  let next ← kind
  if next.isMark ">" then parseFragment rules start nested
  else if next.isAnyWord then parseElement rules start nested
  else unexpected

end JsxLowering.Grammar
