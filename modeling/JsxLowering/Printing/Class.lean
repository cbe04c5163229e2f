import JsxLowering.Printing.Statement

/-!
# Layout of classes
-/

namespace JsxLowering.Printing

/-- Prints a class. -/
def classDefinition (span : Span) (role : Role) (modifiers : List String) (limits : Limits)
    (decorated identifier typeParameters superclass arguments implemented body : Piece) : Printer Unit := do
  parensIf (← wrapsRole role) do
    decorated.inline
    spaceBeforeWord
    mark span
    modifierWords modifiers
    put "class"
    if identifier.isPresent then
      put " "
      identifier.inline
    typeParameters.inline
    if superclass.isPresent then
      put " extends "
      superclass.operand .after
      arguments.inline
    if implemented.isPresent then
      put " implements "
      implemented.inline
    put " "
    body.inlineUnder limits.keepIn

/-- Whether a member of a class is an index signature, which does not end itself. -/
def isIndexSignature : Tree → Bool
  | .node (.indexSignature _) _ _ => true
  | _ => false

/-- Prints the members of a class. -/
def classBody (span : Span) (limits : Limits) (pieces : List Piece) : Printer Unit :=
  braces span pieces.isEmpty (pieces.forM fun piece => do
    commentsAt piece.span.start
    indentation
    piece.inlineUnder limits
    if isIndexSignature piece.tree then endStatement)

/-- The order in which the modifiers of a method or field are printed. -/
def memberOrder : List String :=
  ["declare", "public", "private", "protected", "abstract", "static", "override", "readonly"]

/-- The order in which the modifiers of a field with accessors are printed. -/
def accessorOrder : List String :=
  ["abstract", "public", "private", "protected", "static", "override", "accessor"]

/-- Prints a method of a class. -/
def method (span : Span) (modifiers : List String) (kind : MethodKind) (computed optional : Bool) (limits : Limits)
    (decorated k function : Piece) : Printer Unit := do
  mark span
  decorated.inline
  modifierWords (ordered memberOrder modifiers)
  methodOf kind computed limits k (if optional then "?" else "") function
  newline

/-- Prints a field of a class. That it is set elsewhere is not printed. -/
def field (span : Span) (modifiers : List String) (computed : Bool) (sign : String)
    (decorated k type value : Piece) : Printer Unit := do
  mark span
  decorated.inline
  modifierWords (ordered (if modifiers.contains "accessor" then accessorOrder else memberOrder) modifiers)
  key k computed
  if sign == "?" then put sign
  annotation type
  if value.isPresent then
    put " = "
    value.inline
  endStatement

/-- Prints a static block. -/
def staticBlock (span : Span) (limits : Limits) (pieces : List Piece) : Printer Unit := do
  mark span
  put "static "
  block span limits pieces
  newline

end JsxLowering.Printing
