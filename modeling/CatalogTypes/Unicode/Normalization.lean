import CatalogTypes.Unicode.CombiningClass
import CatalogTypes.Unicode.Decomposition

/-! # Canonical normal form

A text is normalized by decomposing each code point and then sorting every run of marks by
combining class. The sort is stable and never moves a mark past a code point of class zero.
-/
namespace CatalogTypes.Unicode

/-- Puts a code point before an ordered text, after the marks of lower class when it is a mark. -/
def insertMark (c : CodePoint) : Text → Text
  | [] => [c]
  | d :: rest =>
    if isMark d ∧ combiningClass d < combiningClass c then d :: insertMark c rest
    else c :: d :: rest

def orderMarks (t : Text) : Text := t.foldr insertMark []

def normalize (t : Text) : Text := orderMarks (t.flatMap decompose)

end CatalogTypes.Unicode
