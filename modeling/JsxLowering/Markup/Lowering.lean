import JsxLowering.Journal
import JsxLowering.Markup.Tag
import JsxLowering.MethodCall
import JsxLowering.Text.Collapsed
import JsxLowering.Text.Entity
import JsxLowering.Text.Normalized

/-!
# Lowering markup to calls

An element becomes a component call of its tag, its attributes and its children, a fragment the array of its
children. Markup that stands directly in an attribute or among the children is lowered with it; what stands
between braces is taken as it is. An element with at least one remaining child reports its span as a hint, after
everything inside it. The lowering is the same in every monad that takes reports, and where none is named this is
`Logged`.
-/

namespace JsxLowering

/-- The value of an attribute string: references are decoded, then wrapped lines are put together. -/
def attributeText (raw : String) : String :=
  Text.collapse (Text.decodeEntities raw)

/-- The value of a text child: references are decoded, then lines are joined. -/
def childText (raw : String) : String :=
  Text.normalize (Text.decodeEntities raw)

/-- The key of the property that an attribute becomes. -/
def AttributeName.key (name : AttributeName) : Tree :=
  if Text.isValidIdentifier name.text then .node (.key name.text) name.span [] else .string name.span name.text

/-- The span from the first attribute to the last. -/
def attributesSpan : List Attribute → Span
  | [] => ⟨0, 0⟩
  | first :: rest => first.span.through ((rest.getLast?.getD first).span)

/-- The object of an attribute list whose properties are given; an empty list has none. -/
def attributeObject? (attributes : List Attribute) (properties : List Tree) : Option Tree :=
  if attributes.isEmpty then none else some (.object (attributesSpan attributes) properties)

mutual

/-- The expression that an element or a fragment becomes. -/
def Markup.lower (names : MethodNames) (bound : Bool) (markup : Markup) (m : Type → Type := Logged) [Monad m]
    [Reports m] : m Tree :=
  match markup with
  | .element span name attributes children => do
    let properties ← lowerAttributes names bound attributes m
    let arguments ← lowerChildren names bound children m
    if !arguments.isEmpty then Reports.hint span
    return names.componentCall span ((name.tag bound).argument span) (attributeObject? attributes properties)
      arguments
  | .fragment span children => do
    let elements ← lowerChildren names bound children m
    return .array span elements

/-- The properties of an attribute list, one for each attribute. -/
def lowerAttributes (names : MethodNames) (bound : Bool) (attributes : List Attribute) (m : Type → Type := Logged)
    [Monad m] [Reports m] : m (List Tree) :=
  match attributes with
  | [] => return []
  | head :: rest => do
    let property ← head.lower names bound m
    let properties ← lowerAttributes names bound rest m
    return property :: properties

/-- The property of an attribute. -/
def Attribute.lower (names : MethodNames) (bound : Bool) (head : Attribute) (m : Type → Type := Logged) [Monad m]
    [Reports m] : m Tree :=
  match head with
  | .named span name value => do
    let content ← value.lower names bound span m
    return .property span name.key content
  | .spread span argument => return .spread span argument

/-- The value of an attribute with the given span; where there is nothing to say it is true. -/
def AttributeValue.lower (names : MethodNames) (bound : Bool) (span : Span) (value : AttributeValue)
    (m : Type → Type := Logged) [Monad m] [Reports m] : m Tree :=
  match value with
  | .missing => return .boolean span true
  | .text textSpan raw => return .string textSpan (attributeText raw)
  | .expression content => return content
  | .empty => return .boolean span true
  | .markup inner => inner.lower names bound m

/-- The arguments or elements of a list of children. -/
def lowerChildren (names : MethodNames) (bound : Bool) (children : List Child) (m : Type → Type := Logged) [Monad m]
    [Reports m] : m (List Tree) :=
  match children with
  | [] => return []
  | child :: rest => do
    let first ← child.lower names bound m
    let others ← lowerChildren names bound rest m
    return first.toList ++ others

/-- What a child becomes, if anything. -/
def Child.lower (names : MethodNames) (bound : Bool) (child : Child) (m : Type → Type := Logged) [Monad m]
    [Reports m] : m (Option Tree) :=
  match child with
  | .text span raw => do
    let text := childText raw
    if text.isEmpty then
      Reports.note (.droppedText span)
      return none
    else return some (names.literalCall span text)
  | .expression content => return some content
  | .empty => return none
  | .spread span argument => return some (.spread span argument)
  | .markup inner => do
    let tree ← inner.lower names bound m
    return some tree

end

end JsxLowering
