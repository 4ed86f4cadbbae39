/-!
# Sets of characters as ranges

A property of characters is written down as the ranges of the code points that have it, in
ascending order.
-/

namespace ShellPipeline.Text

/-- Whether a code point lies in one of the ranges, which ascend and include both ends. -/
def inRanges (n : Nat) : List (Nat × Nat) → Bool
  | [] => false
  | (first, last) :: ranges => first ≤ n && (n ≤ last || inRanges n ranges)

end ShellPipeline.Text
