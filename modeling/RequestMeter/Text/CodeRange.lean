/-
Ranges of characters.

A property of characters is a list of ranges of code points, both ends included.
-/

namespace RequestMeter.Text

/-- The code points from the first number to the second. -/
abbrev CodeRange := Nat × Nat

/-- Does a character lie within a range? -/
def CodeRange.contains (r : CodeRange) (c : Char) : Bool :=
  decide (r.1 ≤ c.toNat) && decide (c.toNat ≤ r.2)

end RequestMeter.Text
