import JsxLowering.HtmlTag
import JsxLowering.Text.Name
import JsxLowering.Tree

/-!
# Tags

The first argument of a component call comes from the name of the element. Standard element names become strings
in lower case; names that start with a small letter, or that cannot stand as a bare identifier, become strings
as they are; all other single names refer to a binding. A dotted name becomes a member expression, and a single
`this` is the receiver where there is one.
-/

namespace JsxLowering

/-- What the name of an element stands for. -/
inductive Tag where
  /-- An expression, and the tag name where the expression is not a path. -/
  | expression (tree : Tree) (tagName : Option String)
  /-- A name with a namespace; it becomes a string with the span of the element. -/
  | namespaced (tagName : String)

namespace Tag

/-- The tag name, where there is one. -/
def name? : Tag → Option String
  | expression _ tagName => tagName
  | namespaced tagName => some tagName

/-- The first argument of the component call of an element with the given span. -/
def argument (span : Span) : Tag → Tree
  | expression tree _ => tree
  | namespaced tagName => .string span tagName

end Tag

/-- Whether a name starts with a small ASCII letter. -/
def startsSmall (name : String) : Bool :=
  match name.toList with
  | c :: _ => c.isLower
  | [] => false

/-- The tag of a single name. -/
def simpleTag (span : Span) (name : String) : Tag :=
  if isHtmlTag name then .expression (.string span (asciiLower name)) (some (asciiLower name))
  else if startsSmall name || !Text.isValidIdentifier name then .expression (.string span name) (some name)
  else .expression (.name span name) (some name)

/-- The member expression of a dotted name, associated to the left. -/
def DottedName.path : DottedName → Tree
  | head span name => .name span name
  | self span => .this span
  | dot span object propertySpan property => .member span object.path propertySpan property

/-- The tag of an element name; `bound` says whether there is a receiver for a single `this`. -/
def ElementName.tag (bound : Bool) : ElementName → Tag
  | plain span name => simpleTag span name
  | self span => if bound then .expression (.this span) none else simpleTag span "this"
  | dotted span object propertySpan property =>
    .expression (DottedName.dot span object propertySpan property).path none
  | namespaced _ space name => .namespaced (space ++ ":" ++ name)

end JsxLowering
