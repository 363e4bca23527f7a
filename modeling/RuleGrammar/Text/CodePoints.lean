/-!
Owns sets of code points given as ranges in ascending order.
-/

namespace RuleGrammar.Text

/-- Inclusive ranges, disjoint and in ascending order. -/
abbrev CodePoints := List (Nat × Nat)

/-- Looks no further than the first range that ends at or after the character. -/
def CodePoints.contains : CodePoints → Char → Bool
  | [], _ => false
  | (first, last) :: rest, c =>
      if c.toNat ≤ last then decide (first ≤ c.toNat) else contains rest c

end RuleGrammar.Text
