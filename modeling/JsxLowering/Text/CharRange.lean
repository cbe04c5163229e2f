/-!
# Ranges of characters

A Unicode property is stored as a list of closed ranges of code points; `covers` looks a character up in it.
-/

namespace JsxLowering.Text

/-- Whether the code point of `c` lies in one of the closed ranges. -/
def covers (ranges : List (Nat × Nat)) (c : Char) : Bool :=
  ranges.any fun (low, high) => low ≤ c.toNat && c.toNat ≤ high

end JsxLowering.Text
