/-!
Sets of characters given as ascending ranges of code points. A test walks the ranges in order
and stops at the first one that lies beyond the character.
-/

namespace Notebase

abbrev Ranges := List (Nat × Nat)

/-- Membership of a code point, by a walk that stops at the first range beyond it. -/
def Ranges.has (n : Nat) : Ranges → Bool
  | [] => false
  | (first, last) :: rest => if n < first then false else n ≤ last || Ranges.has n rest

end Notebase
