import JsxLowering.Dialect
import JsxLowering.MethodCall
import JsxLowering.Text.Name
import JsxLowering.Text.Quoted

/-!
# Options of a transformation
-/

namespace JsxLowering

/-- The options of a transformation. -/
structure Options where
  names : MethodNames
  filename : String
  dialect : Dialect
  /-- Whether a source map is made. -/
  sourceMap : Bool
  deriving DecidableEq, Repr

/-- Why options are refused. -/
inductive OptionsError where
  /-- The object cannot be written as a bare name. -/
  | invalidNamespace (name : String)
  /-- A method cannot be written after a dot. -/
  | invalidMethod (name : String)
  deriving DecidableEq, Repr

/-- The message of a refusal. -/
def OptionsError.message : OptionsError → String
  | invalidNamespace name => "Invalid namespace identifier: " ++ Text.quoted name
  | invalidMethod name => "Invalid runtime method name: " ++ Text.quoted name

namespace MethodNames

/-- The names that are used unless others are given. -/
def standard : MethodNames := ⟨"Plasmatic", "createComponent", "createLiteral"⟩

end MethodNames

namespace Options

/-- The options that are used unless others are given. -/
def standard : Options := ⟨.standard, "input.jsx", .standard, false⟩

/-- Checks that generated calls can be printed as plain calls of members. -/
def validate (options : Options) : Except OptionsError Unit :=
  let names := options.names
  if !Text.isValidIdentifier names.object then .error (.invalidNamespace names.object)
  else if !Text.isIdentifierName names.component then .error (.invalidMethod names.component)
  else if !Text.isIdentifierName names.literal then .error (.invalidMethod names.literal)
  else .ok ()

end Options

end JsxLowering
