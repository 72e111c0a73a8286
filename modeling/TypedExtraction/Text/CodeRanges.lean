/-!
# Ranges of code points

A class of characters is a row of ranges of code points, both ends included,
in ascending order.
-/

namespace TypedExtraction.Text

abbrev CodeRanges := Array (Nat × Nat)

namespace CodeRanges

def contains (ranges : CodeRanges) (c : Char) : Bool :=
  ranges.any fun (first, last) => first ≤ c.toNat && c.toNat ≤ last

end CodeRanges

end TypedExtraction.Text
