import JsxLowering.Printing.Layout

/-!
# Printed programs

Every node is printed by the layout of its form from its printed parts. Markup has no printed form: it is lowered
before a program is printed.
-/

namespace JsxLowering

namespace Printing

mutual

/-- Prints a piece of host syntax. -/
def printTree : Tree → Place → Printer Unit
  | .node form span parts => layout form span (pieces parts)
  | .markup _ => fun _ => return

/-- The pieces of a list of parts. -/
def pieces : List Tree → List Piece
  | [] => []
  | tree :: rest => ⟨tree, printTree tree⟩ :: pieces rest

end

/-- The style of programs. -/
def programStyle (markup : Bool) : Style := ⟨"  ", markup⟩

/-- The style of single expressions. -/
def expressionStyle : Style := ⟨"\t", false⟩

/-- The comments that are printed: one that speaks about a call or a function is printed with it. -/
def printedComments (comments : List (Nat × List Comment)) : List (Nat × List Comment) :=
  (comments.map fun (offset, found) => (offset, found.filter fun c => c.annotation != .pure && c.annotation != .effectless)).filter
    fun (_, found) => !found.isEmpty

end Printing

namespace Tree

/-- The sheet on which a program is printed with its comments. -/
def sheet (markup : Bool) (comments : List (Nat × List Comment)) (program : Tree) : Printing.Sheet :=
  (Printing.printTree program (.statement .none) (Printing.programStyle markup)
    (Printing.Sheet.blank (Printing.printedComments comments))).2

/-- An expression as text, without comments, indented by tabs. -/
def code (expression : Tree) : String :=
  (Printing.printTree expression (.operand .lowest .none) Printing.expressionStyle (Printing.Sheet.blank [])).2.text

end Tree

end JsxLowering
