/-!
# Sets of characters

A property of characters is tabled as ranges of code points, in order and
apart from each other.
-/

namespace ConfigScope.Text

/-- Ranges of code points, both ends included. -/
abbrev Ranges := List (Nat × Nat)

/-- Whether a code point lies in one of the ranges; they are searched in order. -/
def Ranges.contains : Ranges → Nat → Bool
  | [], _ => false
  | (first, last) :: rest, n => if n < first then false else n ≤ last || Ranges.contains rest n

end ConfigScope.Text
