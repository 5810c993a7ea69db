/-!
# Sets of characters

A set of characters is given by ranges of code points, in increasing order.
-/

namespace TriggerScript

/-- Ranges of code points, ends included, in increasing order. -/
abbrev CodePoints := List (Nat × Nat)

namespace CodePoints

/-- The search stops at the first range that ends no earlier. -/
def hasCode : CodePoints → Nat → Bool
  | [], _ => false
  | (first, last) :: rest, n => if n ≤ last then first ≤ n else hasCode rest n

def has (set : CodePoints) (c : Char) : Bool := set.hasCode c.toNat

end CodePoints

end TriggerScript
