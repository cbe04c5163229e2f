import JsxLowering.Operator
import JsxLowering.Printing.Sheet
import JsxLowering.Tree

/-!
# Pieces and places

How a node is printed depends on its form, on how its parts are printed and on the place where it stands. A
`Piece` is a part together with its printer, which still needs the place; so the layout of a form is a plain
function of its pieces.
-/

namespace JsxLowering.Printing

/-- How tightly a place binds what stands there; an expression that binds no tighter needs parentheses. -/
abbrev Level := Nat

namespace Level

def lowest : Level := 0
def comma : Level := 1
def yields : Level := 3
def assign : Level := 4
def conditional : Level := 5
def nullish : Level := 6
def equality : Level := 12
def compare : Level := 13
def shift : Level := 14
def power : Level := 17
def before : Level := 18
def after : Level := 19
def construct : Level := 20
def call : Level := 21

/-- How tightly a binary operator binds. -/
def ofOperator (operator : String) : Level :=
  nullish + (operatorRank? operator).getD 0

end Level

/-- What may not stand bare in a place. Limits reach through bodies of arrow functions and methods into the statements
there. -/
structure Limits where
  /-- The operator `in`, in the head of a loop. -/
  noIn : Bool := false
  /-- A call, in the callee of `new`. -/
  noCall : Bool := false

namespace Limits

/-- Everything may stand bare. -/
def none : Limits := {}

/-- Only the limit on `in`. -/
def keepIn (limits : Limits) : Limits := { limits with noCall := false }

/-- Only the limit on calls. -/
def keepCall (limits : Limits) : Limits := { limits with noIn := false }

end Limits

/-- Where a node is printed. -/
inductive Place where
  /-- An expression inside another construct. -/
  | operand (level : Level) (limits : Limits)
  /-- A statement on lines of its own. -/
  | statement (limits : Limits)
  /-- Any other part of a construct. -/
  | inline (limits : Limits)

namespace Place

/-- The limits of a place. -/
def limits : Place → Limits
  | operand _ limits => limits
  | statement limits => limits
  | inline limits => limits

/-- How tightly a place binds. -/
def level : Place → Level
  | operand level _ => level
  | _ => .lowest

/-- Whether a place is for a statement. -/
def isStatement : Place → Bool
  | statement _ => true
  | _ => false

end Place

/-- A part of a node with its printer. -/
structure Piece where
  tree : Tree
  print : Place → Printer Unit

namespace Piece

/-- Prints an expression. -/
def operand (piece : Piece) (level : Level) : Printer Unit := piece.print (.operand level .none)

/-- Prints an expression under limits. -/
def operandUnder (piece : Piece) (level : Level) (limits : Limits) : Printer Unit :=
  piece.print (.operand level limits)

/-- Prints a statement under limits. -/
def statementUnder (piece : Piece) (limits : Limits) : Printer Unit := piece.print (.statement limits)

/-- Prints any other part. -/
def inline (piece : Piece) : Printer Unit := piece.print (.inline .none)

/-- Prints any other part under limits. -/
def inlineUnder (piece : Piece) (limits : Limits) : Printer Unit := piece.print (.inline limits)

/-- Whether the part is written. -/
def isPresent (piece : Piece) : Bool := piece.tree.isPresent

/-- The span of the part. -/
def span (piece : Piece) : Span := piece.tree.span

end Piece

end JsxLowering.Printing
