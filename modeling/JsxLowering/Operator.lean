/-!
# Binary operators

The binary operators of the host language, ordered by how tightly they bind. Reading and printing use the same
order.
-/

namespace JsxLowering

/-- The binary operators in ranks, the loosest rank first. -/
def operatorRanks : List (List String) :=
  [["??"], ["||"], ["&&"], ["|"], ["^"], ["&"], ["==", "!=", "===", "!=="],
    ["<", ">", "<=", ">=", "instanceof", "in"], ["<<", ">>", ">>>"], ["+", "-"], ["*", "/", "%"], ["**"]]

/-- The rank of a binary operator. -/
def operatorRank? (operator : String) : Option Nat :=
  operatorRanks.findIdx? (·.contains operator)

end JsxLowering
