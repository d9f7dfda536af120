/-!
# Character ranges

A set of code points as a list of closed ranges in ascending order, the shape in which character
databases publish their classes.
-/

namespace CardRules.Text

/-- Closed ranges of code points, ascending and apart. -/
abbrev Ranges := List (Nat × Nat)

/-- Whether one of the ranges holds `n`. The search stops at the first range that ends at `n` or
above it. -/
def Ranges.holds : Ranges → Nat → Bool
  | [], _ => false
  | (lo, hi) :: rest, n => if n ≤ hi then lo ≤ n else holds rest n

end CardRules.Text
