import JsxLowering.Printing.Class

/-!
# Layout of imports and exports
-/

namespace JsxLowering.Printing

/-- The text of a name of an export. -/
def exportText? : Tree → Option String
  | .node (.key text) _ _ => some text
  | .node (.binding text) _ _ => some text
  | .node (.string value _) _ _ => some value
  | _ => none

/-- Prints a specifier with the name it has elsewhere, if that is another one. -/
def specifier (typeOnly : Bool) (own other : Piece) : Printer Unit := do
  if typeOnly then put "type "
  own.operand .comma
  if exportText? own.tree != exportText? other.tree then
    put " as "
    other.operand .comma

/-- Prints a key or name of which no place is noted. -/
def unmarkedName (piece : Piece) : Printer Unit :=
  match piece.tree with
  | .node (.key text) _ _ => put text
  | .node (.binding text) _ _ => put text
  | _ => piece.inline

/-- Prints attributes of an import. -/
def importAttributes (span : Span) (keyword : String) (pieces : List Piece) : Printer Unit := do
  mark span
  put (keyword ++ " \x7b")
  unless pieces.isEmpty do
    put " "
    commaSeparated (pieces.map (·.inline))
    put " "
  put "\x7d"

/-- Prints an attribute of an import. -/
def importAttribute (k value : Piece) : Printer Unit := do
  unmarkedName k
  put ": "
  value.inline

/-- Prints attributes after a space, if there are any. -/
def attributesAfter (attributes : Piece) : Printer Unit := do
  if attributes.isPresent then
    put " "
    attributes.inline

/-- Whether a specifier is a named one. -/
def isNamed : Tree → Bool
  | .node (.importNamed _) _ _ => true
  | _ => false

/-- Prints the specifiers of an import; those with names are in braces and come last. -/
def importClause (pieces : List Piece) : Printer Unit := do
  let (named, whole) := pieces.partition fun piece => isNamed piece.tree
  let braced := do
    put "\x7b "
    commaSeparated (named.map (·.inline))
    put " \x7d"
  if pieces.isEmpty then put "\x7b\x7d"
  else commaSeparated (whole.map (·.inline) ++ if named.isEmpty then [] else [braced])

/-- The source of an import without names, as it is printed: its value is not escaped, and no place is noted. -/
def bareSource : Tree → String
  | .node (.string value _) _ _ => "\"" ++ value ++ "\""
  | _ => ""

/-- Prints an import. -/
def importDeclaration (kind : String) (specifiers source attributes : Piece) : Printer Unit := do
  word "import"
  if kind != "" then put (" " ++ kind)
  put " "
  if specifiers.isPresent then
    specifiers.inline
    put " from "
    if specifiers.tree.parts.isEmpty then put (bareSource source.tree) else source.inline
  else source.inline
  attributesAfter attributes

/-- Prints an export of names. -/
def exportNamed (typeOnly : Bool) (specifiers source attributes : Piece) : Printer Unit := do
  word "export"
  if typeOnly then put " type"
  put " \x7b"
  unless specifiers.tree.parts.isEmpty do
    put " "
    specifiers.inline
    put " "
  put "\x7d"
  if source.isPresent then
    put " from "
    source.inline
  attributesAfter attributes

/-- Prints an export of a whole module. -/
def exportAll (typeOnly : Bool) (exported source attributes : Piece) : Printer Unit := do
  word "export"
  if typeOnly then put " type"
  put " *"
  if exported.isPresent then
    put " as "
    exported.operand .comma
  put " from "
  source.inline
  attributesAfter attributes

/-- Whether a declaration ends in a semicolon. -/
def endsInSemicolon : Tree → Bool
  | .node (.variableDeclaration _ _) _ _ => true
  | .node (.typeAlias _) _ _ => true
  | .node .importEquals _ _ => true
  | _ => false

/-- Prints the comment about a function without effects before its export. -/
def effectlessExport : Tree → Printer Unit
  | .node (.function .declaration _ _ _ effectless) _ _ => do
    if effectless then put (effectlessComment ++ "\n")
  | _ => return

/-- Prints an export of a declaration. -/
def exportDeclaration (declaration : Piece) : Printer Unit := do
  effectlessExport declaration.tree
  word "export"
  put " "
  declaration.inline
  if endsInSemicolon declaration.tree then endStatement else newline

/-- Prints a default export. No line end follows an interface. -/
def exportDefault (exported : Piece) : Printer Unit := do
  effectlessExport exported.tree
  word "export"
  put " default "
  match exported.tree with
  | .node (.function .declaration _ _ _ _) _ _ =>
    exported.inline
    newline
  | .node (.classDefinition .declaration _) _ _ =>
    exported.inline
    newline
  | .node (.interface _) _ _ => exported.inline
  | _ =>
    modify fun sheet => { sheet with defaultStart := sheet.length }
    exported.operand .comma
    endStatement

/-- Prints an import with an equals sign. -/
def importEquals (binding reference : Piece) : Printer Unit := do
  word "import"
  put " "
  binding.inline
  put " = "
  reference.inline

end JsxLowering.Printing
