/-! Sets of characters given as ascending ranges of code points. -/
namespace StackMachine.Text

/-- The ranges are disjoint and ascend, each with its first and last code point. -/
abbrev Ranges := List (Nat × Nat)

namespace Ranges

/-- The search ends at the first range that starts above the code point. -/
def has : Ranges → Nat → Bool
  | [], _ => false
  | (lo, hi) :: rest, n => if n < lo then false else if n ≤ hi then true else has rest n

end Ranges

end StackMachine.Text
