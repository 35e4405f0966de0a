import CatalogTypes.Unicode.Range

/-! # Blank characters

White space in the sense of the bidirectional classes and the space separators.
-/
namespace CatalogTypes.Unicode

def blankRangesA : List (Nat × Nat) := [
  (0x9, 0xD), (0x1C, 0x20), (0x85, 0x85), (0xA0, 0xA0), (0x1680, 0x1680),
  (0x2000, 0x200A), (0x2028, 0x2029), (0x202F, 0x202F), (0x205F, 0x205F), (0x3000, 0x3000)]

def isBlank (c : CodePoint) : Bool :=
  inRanges blankRangesA c

end CatalogTypes.Unicode
