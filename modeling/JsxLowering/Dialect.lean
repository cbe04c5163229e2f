/-!
# Dialects

Which language a source text is in: with types or without, as a module or a script, with markup or without.
-/

namespace JsxLowering

/-- The language of a source text. -/
inductive Language where
  | plain
  | typed
  /-- Declarations of types only. -/
  | declarations
  deriving DecidableEq, Repr

/-- How a source text is loaded. -/
inductive Loading where
  | script
  | module
  /-- Run as the body of a function. -/
  | commonjs
  /-- Left to the text itself. -/
  | unambiguous
  deriving DecidableEq, Repr

/-- A dialect of the host language. -/
structure Dialect where
  language : Language
  loading : Loading
  markup : Bool
  deriving DecidableEq, Repr

namespace Dialect

/-- A module with markup and without types. -/
def standard : Dialect := ⟨.plain, .module, true⟩

end Dialect

end JsxLowering
