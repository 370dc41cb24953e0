/-!
# Tables of ranges

A set of characters given by the ranges of their code points, in ascending order.

## Main definitions

* `Text.inRanges`: a code point lies in one of the ranges
-/

namespace TemplateLiteral.Text

/-- The code point lies in one of the ranges, which are in ascending order. -/
def inRanges (n : Nat) : List (Nat × Nat) → Bool
  | [] => false
  | (first, last) :: rest => if n < first then false else n ≤ last || inRanges n rest

end TemplateLiteral.Text
