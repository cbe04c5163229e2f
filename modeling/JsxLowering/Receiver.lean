import JsxLowering.Form

/-!
# The receiver

Whether `this` has a receiver at a place in a program. Functions, static blocks and the values of class fields
bind one; arrow functions, blocks, class heads and computed keys leave it to what is around them. At the top
level there is a receiver in scripts only.
-/

namespace JsxLowering

/-- What a node is for the search of a receiver. -/
inductive Frame where
  /-- The parameters and the body of a function or method. -/
  | function
  /-- The parameters and the body of an arrow function. -/
  | arrow
  /-- A static block of a class. -/
  | staticBlock
  /-- The value that a class field starts with. -/
  | fieldValue
  /-- Anything else. -/
  | plain
  deriving DecidableEq, Repr

/-- The frame that a node of host syntax puts around its parts. -/
def Form.frame : Form → Frame
  | .function _ _ _ _ _ => .function
  | .arrow _ _ _ => .arrow
  | .staticBlock => .staticBlock
  | .fieldValue => .fieldValue
  | _ => .plain

/-- Whether one of the frames is a field value. -/
def inFieldValue (frames : List Frame) : Bool :=
  frames.any (· == .fieldValue)

/-- Whether a scope binds a receiver, from the innermost frame outwards; `script` answers for the top level. -/
def scopeBinds (script : Bool) : List Frame → Bool
  | [] => script
  | .function :: _ => true
  | .staticBlock :: _ => true
  | _ :: outer => scopeBinds script outer

/-- Whether `this` has a receiver inside the given frames, innermost first. -/
def receiverBound (script : Bool) (frames : List Frame) : Bool :=
  inFieldValue frames || scopeBinds script frames

end JsxLowering
