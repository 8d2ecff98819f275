/-!
# Ranges of code points

A class of characters is given as the list of the ranges that its code points make up.
-/

namespace Spellbook.Text

/-- Whether the number lies in one of the ranges, ends included. -/
def inRanges (ranges : List (Nat × Nat)) (n : Nat) : Bool :=
  ranges.any fun (low, high) => low ≤ n && n ≤ high

end Spellbook.Text
