import JsxLowering.Tree

/-!
# Method calls

Markup becomes calls of two methods of one object: one method builds a component from a tag, its attributes and its
children, the other builds a literal from a text. Every node of a generated call carries the span of the markup that
it stands for.
-/

namespace JsxLowering

/-- The names that generated calls use. -/
structure MethodNames where
  /-- The object whose methods are called. -/
  object : String
  /-- The method that builds a component. -/
  component : String
  /-- The method that builds a literal. -/
  literal : String
  deriving DecidableEq, Repr

namespace MethodNames

/-- The callee of a generated call. -/
def callee (names : MethodNames) (span : Span) (method : String) : Tree :=
  .member span (.name span names.object) span method

/-- The call that builds a literal. -/
def literalCall (names : MethodNames) (span : Span) (text : String) : Tree :=
  .call span (names.callee span names.literal) [.string span text]

/-- The call that builds a component from its tag, its attributes, if any, and its children. -/
def componentCall (names : MethodNames) (span : Span) (tag : Tree) (attributes : Option Tree)
    (children : List Tree) : Tree :=
  .call span (names.callee span names.component) (tag :: attributes.getD (.null span) :: children)

end MethodNames

end JsxLowering
