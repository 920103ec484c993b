/-!
Sets of characters given by ranges.
-/

namespace PropertyMacros.Text

/-- First and last code point of each range, in ascending order. -/
abbrev CharRanges := List (Nat × Nat)

/-- Whether a character lies in one of the ranges. Ranges behind it are not looked at. -/
def CharRanges.contains (c : Char) : CharRanges → Bool
  | [] => false
  | (first, last) :: ranges => first ≤ c.toNat && (c.toNat ≤ last || contains c ranges)

end PropertyMacros.Text
