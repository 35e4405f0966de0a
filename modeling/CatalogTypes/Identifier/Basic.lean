import CatalogTypes.Unicode.Normalization

/-! # Identifiers

An identifier is made of ASCII letters and digits and does not begin with a digit. Any text has
one: its accents are dropped, and so is everything that is no letter or digit.
-/
namespace CatalogTypes.Identifier

/-- The letters and digits of a name, without accents. -/
def strip (name : Text) : Text :=
  ((Unicode.normalize name).filter (!Unicode.isMark ·)).filter (·.isAlphanumeric)

def unnamed : Text := "Unnamed"

def marker : CodePoint := 'T'

def ofStripped : Text → Text
  | [] => unnamed
  | c :: rest => if c.isDigit then marker :: c :: rest else c :: rest

def ofName (name : Text) : Text := ofStripped (strip name)

end CatalogTypes.Identifier
