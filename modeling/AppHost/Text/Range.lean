/-! Membership of a code point in a list of ascending ranges, both ends included. -/

set_option autoImplicit false
namespace AppHost.Text

/-- Stops at the first range that ends at or after the code point. -/
def inRanges : List (Nat × Nat) → Nat → Bool
  | [], _ => false
  | (first, last) :: rest, n => if n ≤ last then decide (first ≤ n) else inRanges rest n

end AppHost.Text
