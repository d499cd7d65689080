/-!
# Sets of characters by ranges

A property of characters is given by the list of the code point ranges that have it.
-/

namespace ApiDoc.Text

/-- A set of characters: the ranges of their code points, ends included. -/
abbrev CharRanges := List (Nat × Nat)

def CharRanges.contains (ranges : CharRanges) (c : Char) : Bool :=
  ranges.any fun (first, last) => first ≤ c.toNat && c.toNat ≤ last

end ApiDoc.Text
