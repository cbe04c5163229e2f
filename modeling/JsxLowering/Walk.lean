import JsxLowering.Markup.Lowering
import JsxLowering.Receiver

/-!
# The walk over a program

A program is walked depth first in source order. Markup where an expression stands is lowered when the walk
leaves it; by then everything between its braces, also in markup that stands directly inside it, has been
lowered. Markup directly inside markup is lowered together with it and shares its receiver.
-/

namespace JsxLowering

/-- What the walk over a program knows at every place. -/
structure Surroundings where
  names : MethodNames
  /-- Whether the program is a script. -/
  script : Bool
  /-- The frames around the place, innermost first. -/
  frames : List Frame

namespace Surroundings

/-- The surroundings of the parts of a node. -/
def enter (s : Surroundings) (form : Form) : Surroundings :=
  { s with frames := form.frame :: s.frames }

/-- Whether `this` has a receiver here. -/
def bound (s : Surroundings) : Bool := receiverBound s.script s.frames

end Surroundings

/-- The record of markup that is about to be lowered. -/
def Markup.record (bound : Bool) : Markup → Record
  | .element span name _ _ => .element name span bound
  | .fragment span _ => .fragment span

/-- Lowers markup where an expression stands, and reports it. -/
def Markup.replace (s : Surroundings) (m : Markup) : Logged Tree := do
  Reports.note (m.record s.bound)
  let tree ← m.lower s.names s.bound
  Reports.note (.replaced tree)
  return tree

mutual

/-- Lowers all markup in a piece of host syntax. -/
def Tree.lowerMarkup (s : Surroundings) : Tree → Logged Tree
  | .node form span parts => do
    let parts ← lowerInParts (s.enter form) parts
    return .node form span parts
  | .markup m => do
    let inner ← m.lowerInside s
    inner.replace s

/-- Lowers all markup in a list of parts. -/
def lowerInParts (s : Surroundings) : List Tree → Logged (List Tree)
  | [] => return []
  | part :: rest => do
    let first ← part.lowerMarkup s
    let others ← lowerInParts s rest
    return first :: others

/-- Lowers all markup between the braces of an element or a fragment and of the markup directly inside it. -/
def Markup.lowerInside (s : Surroundings) : Markup → Logged Markup
  | .element span name attributes children => do
    let attributes ← lowerInAttributes s attributes
    let children ← lowerInChildren s children
    return .element span name attributes children
  | .fragment span children => do
    let children ← lowerInChildren s children
    return .fragment span children

/-- Lowers all markup between the braces of attributes. -/
def lowerInAttributes (s : Surroundings) : List Attribute → Logged (List Attribute)
  | [] => return []
  | head :: rest => do
    let first ← head.lowerInside s
    let others ← lowerInAttributes s rest
    return first :: others

/-- Lowers all markup between the braces of an attribute. -/
def Attribute.lowerInside (s : Surroundings) : Attribute → Logged Attribute
  | .named span name value => do
    let value ← value.lowerInside s
    return .named span name value
  | .spread span argument => do
    let argument ← argument.lowerMarkup s
    return .spread span argument

/-- Lowers all markup between the braces of the value of an attribute. -/
def AttributeValue.lowerInside (s : Surroundings) : AttributeValue → Logged AttributeValue
  | .missing => return .missing
  | .text span raw => return .text span raw
  | .expression content => do
    let content ← content.lowerMarkup s
    return .expression content
  | .empty => return .empty
  | .markup m => do
    let inner ← m.lowerInside s
    return .markup inner

/-- Lowers all markup between the braces of children. -/
def lowerInChildren (s : Surroundings) : List Child → Logged (List Child)
  | [] => return []
  | child :: rest => do
    let first ← child.lowerInside s
    let others ← lowerInChildren s rest
    return first :: others

/-- Lowers all markup between the braces of a child. -/
def Child.lowerInside (s : Surroundings) : Child → Logged Child
  | .text span raw => return .text span raw
  | .expression content => do
    let content ← content.lowerMarkup s
    return .expression content
  | .empty => return .empty
  | .spread span argument => do
    let argument ← argument.lowerMarkup s
    return .spread span argument
  | .markup m => do
    let inner ← m.lowerInside s
    return .markup inner

end

end JsxLowering
