/-!
# Tables of code points

A character property of the Unicode standard is a list of closed ranges of code points in ascending
order. Membership stops at the first range that starts behind the code point, so that the frequent
low code points are settled at the front of a table.
-/

set_option autoImplicit false

namespace Diagnostics.Text

/-- Membership of a code point in an ascending list of closed ranges. -/
def inRanges (n : Nat) : List (Nat × Nat) → Bool
  | [] => false
  | (first, last) :: ranges => if n < first then false else n ≤ last || inRanges n ranges

end Diagnostics.Text
