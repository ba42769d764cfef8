/-!
Classes of characters given by closed ranges of code points. A class that is large gets a table in a
module of its own; membership is one function for all of them.
-/

namespace KnotAtlas.Text

/-- Whether code point `n` lies in one of the closed ranges. -/
def inRanges (ranges : List (Nat × Nat)) (n : Nat) : Bool :=
  ranges.any fun r => r.1 ≤ n && n ≤ r.2

end KnotAtlas.Text
