import JsxLowering.Form
import JsxLowering.Span

/-!
# Syntax trees

Host syntax is a tree of nodes, each with its form, its span and its parts in source order. Markup is a family of
types of its own, since it is what this library is about: elements and fragments with their names, attributes and
children. Host syntax holds markup wherever an expression may stand, and markup holds host syntax between braces.
-/

namespace JsxLowering

/-- The part of a dotted element name before its last dot. -/
inductive DottedName where
  /-- A plain name at the head. -/
  | head (span : Span) (name : String)
  /-- `this` at the head. -/
  | self (span : Span)
  /-- A longer path. -/
  | dot (span : Span) (object : DottedName) (propertySpan : Span) (property : String)
  deriving DecidableEq, Repr

/-- The name of an element. -/
inductive ElementName where
  /-- A single name, with hyphens or without. -/
  | plain (span : Span) (name : String)
  /-- The single name `this`. -/
  | self (span : Span)
  /-- A dotted name. -/
  | dotted (span : Span) (object : DottedName) (propertySpan : Span) (property : String)
  /-- A name with a namespace before a colon. -/
  | namespaced (span : Span) (space name : String)
  deriving DecidableEq, Repr

/-- The name of an attribute. -/
inductive AttributeName where
  | plain (span : Span) (name : String)
  | namespaced (span : Span) (space name : String)
  deriving DecidableEq, Repr

mutual

/-- A piece of host syntax. -/
inductive Tree where
  | node (form : Form) (span : Span) (parts : List Tree)
  | markup (markup : Markup)

/-- An element or a fragment. -/
inductive Markup where
  | element (span : Span) (name : ElementName) (attributes : List Attribute) (children : List Child)
  | fragment (span : Span) (children : List Child)

/-- An attribute of an element. -/
inductive Attribute where
  | named (span : Span) (name : AttributeName) (value : AttributeValue)
  /-- `{...argument}` -/
  | spread (span : Span) (argument : Tree)

/-- What follows the name of an attribute. -/
inductive AttributeValue where
  /-- Nothing: the bare name. -/
  | missing
  /-- A quoted text, as it is written between its quotes. -/
  | text (span : Span) (raw : String)
  /-- An expression between braces. -/
  | expression (content : Tree)
  /-- Braces with nothing between them. -/
  | empty
  /-- An element or a fragment without braces. -/
  | markup (markup : Markup)

/-- A child of an element or a fragment. -/
inductive Child where
  /-- Text between tags, as it is written. -/
  | text (span : Span) (raw : String)
  /-- An expression between braces. -/
  | expression (content : Tree)
  /-- Braces with nothing between them. -/
  | empty
  /-- `{...argument}` -/
  | spread (span : Span) (argument : Tree)
  | markup (markup : Markup)

end

instance : Inhabited Tree := ⟨.node .absent default []⟩

namespace DottedName

/-- The span of a dotted name. -/
def span : DottedName → Span
  | head span _ => span
  | self span => span
  | dot span _ _ _ => span

/-- A dotted name as it is written, without blanks. -/
def text : DottedName → String
  | head _ name => name
  | self _ => "this"
  | dot _ object _ property => object.text ++ "." ++ property

end DottedName

namespace ElementName

/-- The span of an element name. -/
def span : ElementName → Span
  | plain span _ => span
  | self span => span
  | dotted span _ _ _ => span
  | namespaced span _ _ => span

/-- An element name as it is written, without blanks. -/
def text : ElementName → String
  | plain _ name => name
  | self _ => "this"
  | dotted _ object _ property => object.text ++ "." ++ property
  | namespaced _ space name => space ++ ":" ++ name

/-- The whole of a dotted name, if the name is dotted. -/
def dotted? : ElementName → Option DottedName
  | dotted span object propertySpan property => some (.dot span object propertySpan property)
  | _ => none

end ElementName

namespace AttributeName

/-- The span of an attribute name. -/
def span : AttributeName → Span
  | plain span _ => span
  | namespaced span _ _ => span

/-- An attribute name as it is written, without blanks. -/
def text : AttributeName → String
  | plain _ name => name
  | namespaced _ space name => space ++ ":" ++ name

end AttributeName

namespace Markup

/-- The span of an element or a fragment. -/
def span : Markup → Span
  | element span _ _ _ => span
  | fragment span _ => span

end Markup

namespace Attribute

/-- The span of an attribute. -/
def span : Attribute → Span
  | named span _ _ => span
  | spread span _ => span

end Attribute

namespace Tree

/-- The span of a piece of host syntax. -/
def span : Tree → Span
  | node _ span _ => span
  | markup m => m.span

/-- The parts of a piece of host syntax. -/
def parts : Tree → List Tree
  | node _ _ parts => parts
  | markup _ => []

/-- A part that is not written. -/
def absent : Tree := node .absent ⟨0, 0⟩ []

/-- Whether a part is written. -/
def isPresent : Tree → Bool
  | node .absent _ _ => false
  | _ => true

/-- An expression taken out of its parentheses. -/
def withoutParens : Tree → Tree
  | node .paren _ [inner] => withoutParens inner
  | tree => tree

/-- An expression taken out of its parentheses and of the types around it. -/
def withoutTypes : Tree → Tree
  | node .paren _ [inner] => withoutTypes inner
  | node (.ascription _) _ [inner, _] => withoutTypes inner
  | node .nonNull _ [inner] => withoutTypes inner
  | node .assertion _ [_, inner] => withoutTypes inner
  | tree => tree

/-- A reference to a binding. -/
def name (span : Span) (text : String) : Tree := node (.name text) span []

/-- The receiver of the current call. -/
def this (span : Span) : Tree := node .this span []

/-- The empty reference. -/
def null (span : Span) : Tree := node .null span []

/-- A truth value. -/
def boolean (span : Span) (value : Bool) : Tree := node (.boolean value) span []

/-- A string. -/
def string (span : Span) (value : String) : Tree := node (.string value false) span []

/-- The member `property` of an object. -/
def member (span : Span) (object : Tree) (propertySpan : Span) (property : String) : Tree :=
  node (.member false) span [object, node (.key property) propertySpan []]

/-- A call. -/
def call (span : Span) (callee : Tree) (arguments : List Tree) : Tree :=
  node (.call false false) span (callee :: arguments)

/-- An array. -/
def array (span : Span) (elements : List Tree) : Tree := node .array span elements

/-- An object. -/
def object (span : Span) (properties : List Tree) : Tree := node .object span properties

/-- A property of an object. -/
def property (span : Span) (key value : Tree) : Tree := node (.property false false) span [key, value]

/-- A spread in an array, an object or a call. -/
def spread (span : Span) (argument : Tree) : Tree := node .spread span [argument]

end Tree

end JsxLowering
