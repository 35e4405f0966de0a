import CatalogTypes.Text

/-! # Ranges of code points

A property of code points is a list of ranges, each with its first and its last member.
-/
namespace CatalogTypes.Unicode

def inRanges (ranges : List (Nat × Nat)) (c : CodePoint) : Bool :=
  ranges.any fun r => r.1 ≤ c.val && c.val ≤ r.2

end CatalogTypes.Unicode
