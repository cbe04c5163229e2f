import JsxLowering.Printing.Module

/-!
# Layout of types
-/

namespace JsxLowering.Printing

/-- Prints pieces with a text between them. -/
def joined (between : String) : List Piece → Printer Unit
  | [] => return
  | [piece] => piece.inline
  | piece :: rest => do
    piece.inline
    put between
    joined between rest

/-- Prints type arguments. -/
def typeArguments (pieces : List Piece) : Printer Unit := do
  put "<"
  joined ", " pieces
  put ">"

/-- Prints type parameters; two and more stand on lines of their own. -/
def typeParameters (pieces : List Piece) : Printer Unit := do
  put "<"
  match pieces with
  | [piece] =>
    piece.inline
    if (← read).markup then put ","
  | pieces => onLines (pieces.map (·.inline))
  put ">"

/-- Prints a type parameter. -/
def typeParameter (modifiers : List String) (identifier constraint fallback : Piece) : Printer Unit := do
  modifierWords (ordered ["const", "in", "out"] modifiers)
  identifier.inline
  if constraint.isPresent then
    put " extends "
    constraint.inline
  if fallback.isPresent then
    put " = "
    fallback.inline

/-- Prints a function type. -/
def functionType (lead : String) (typeParameters params result : Piece) : Printer Unit := do
  put lead
  typeParameters.inline
  params.inline
  put " => "
  result.inline

/-- Prints the members of an object type or interface, in braces. -/
def signatures (span : Span) (pieces : List Piece) : Printer Unit :=
  braces span pieces.isEmpty (pieces.forM fun piece => do
    commentsAt piece.span.start
    indentation
    piece.inline
    endStatement)

/-- Prints a literal as a type. A number is printed as it is written. -/
def literalType (literal : Piece) : Printer Unit :=
  match literal.tree with
  | .node (.number _ raw) span _ => markedWord span raw
  | _ => literal.operand .lowest

/-- Prints a mapped type. -/
def mappedType (readonlyMark optionalMark : String) (identifier constraint rename type : Piece) : Printer Unit := do
  put "\x7b "
  if readonlyMark != "" then put (readonlyMark ++ " ")
  put "["
  identifier.inline
  put " in "
  constraint.inline
  if rename.isPresent then
    put " as "
    rename.inline
  put ("]" ++ optionalMark ++ " ")
  annotation type
  put " \x7d"

/-- Prints a conditional type. -/
def conditionalType (checked extended yes no : Piece) : Printer Unit := do
  checked.inline
  put " extends "
  extended.inline
  put " ? "
  yes.inline
  put " : "
  no.inline

/-- Prints the texts and types of a template type in turn. -/
def templateType : List Piece → Printer Unit
  | [] => return
  | piece :: rest => do
    match piece.tree with
    | .node (.templateText raw) _ _ => put raw
    | _ =>
      put "$\x7b"
      piece.inline
      put "\x7d"
    templateType rest

/-- Prints a claim about a parameter. -/
def predicate (asserts : Bool) (subject type : Piece) : Printer Unit := do
  if asserts then put "asserts "
  subject.inline
  if type.isPresent then
    put " is "
    type.inline

/-- Prints a property of an object type. -/
def propertySignature (modifiers : List String) (computed optional : Bool) (k type : Piece) : Printer Unit := do
  modifierWords modifiers
  key k computed
  if optional then put "?"
  annotation type

/-- Prints a method of an object type. -/
def methodSignature (kind : MethodKind) (computed optional : Bool) (k typeParameters params result : Piece) :
    Printer Unit := do
  match kind with
  | .plain => pure ()
  | .getter => put "get "
  | .setter => put "set "
  key k computed
  if optional then put "?"
  typeParameters.inline
  params.inline
  annotation result

/-- Prints a call signature of an object type. -/
def callSignature (lead : String) (typeParameters params result : Piece) : Printer Unit := do
  put lead
  typeParameters.inline
  params.inline
  annotation result

/-- Prints an index signature. -/
def indexSignature (modifiers : List String) (identifier index type : Piece) : Printer Unit := do
  modifierWords (ordered ["readonly"] modifiers)
  put "["
  unmarkedName identifier
  put ": "
  index.inline
  put "]"
  annotation type

/-! ### Declarations -/

/-- Prints an interface. -/
def interface (declared : Bool) (identifier typeParameters extended body : Piece) : Printer Unit := do
  if declared then put "declare "
  word "interface"
  put " "
  identifier.inline
  typeParameters.inline
  if extended.isPresent then
    put " extends "
    extended.inline
  put " "
  body.inline

/-- Prints a type alias. -/
def typeAlias (declared : Bool) (identifier typeParameters type : Piece) : Printer Unit := do
  if declared then put "declare "
  word "type"
  put " "
  identifier.inline
  typeParameters.inline
  put " = "
  type.inline

/-- Prints the members of an enumeration. -/
def enumMembers : List Piece → Printer Unit
  | [] => return
  | piece :: rest => do
    commentsAt piece.span.start
    indentation
    piece.inline
    unless rest.isEmpty do put ","
    newline
    enumMembers rest

/-- Prints an enumeration, with the indentation of a line. -/
def enumeration (modifiers : List String) (identifier body : Piece) : Printer Unit := do
  indentation
  modifierWords modifiers
  word "enum"
  put " "
  identifier.inline
  put " "
  body.inline

/-- Prints a member of an enumeration. -/
def enumMember (computed : Bool) (k value : Piece) : Printer Unit := do
  key k computed
  if value.isPresent then
    put " = "
    value.operand .lowest

/-- Prints a namespace. -/
def moduleBlock (keyword : String) (declared : Bool) (limits : Limits) (identifier body : Piece) : Printer Unit := do
  if declared then put "declare "
  if keyword != "global" then put (keyword ++ " ")
  identifier.inline
  if body.isPresent then
    put " "
    body.inlineUnder limits

end JsxLowering.Printing
