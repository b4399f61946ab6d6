/-!
# Sets of code points

A class of characters is given as closed ranges of code points in ascending order.
-/

namespace HeaderRules.Text

/-- Membership in ascending closed ranges; the search stops at the first range that begins
above the code point. -/
def inRanges : List (Nat × Nat) → Nat → Bool
  | [], _ => false
  | (lo, hi) :: rest, code =>
    if code < lo then false else if code ≤ hi then true else inRanges rest code

end HeaderRules.Text
