import CatalogTypes.Text

/-! # Paths

A path is an anchor and the names below it. Empty names and single points vanish when a path is
read, two leading slashes stay two, and more than two count as one.
-/
namespace CatalogTypes

inductive Anchor where
  | relative
  | root
  | doubleRoot
  deriving DecidableEq, Repr

def Anchor.text : Anchor → Text
  | .relative => []
  | .root => "/"
  | .doubleRoot => "//"

structure Path where
  anchor : Anchor
  parts : List Text
  deriving DecidableEq, Repr

namespace Path

def here : Path := ⟨.relative, []⟩

def anchorOf (t : Text) : Anchor :=
  match (t.takeWhile (· = ('/' : CodePoint))).length with
  | 0 => .relative
  | 2 => .doubleRoot
  | _ => .root

def ofText (t : Text) : Path :=
  ⟨anchorOf t, (t.split '/').filter fun part => !part.isEmpty && part ≠ text "."⟩

def toText (p : Path) : Text :=
  if p = here then "." else p.anchor.text ++ List.intercalate (text "/") p.parts

/-- The second path as seen from the first. An anchored path is the same from everywhere. -/
def join (p q : Path) : Path :=
  if q.anchor = .relative then ⟨p.anchor, p.parts ++ q.parts⟩ else q

instance : Append Path := ⟨join⟩

/-- An anchor, and the path that leads nowhere, are their own parents. -/
def parent (p : Path) : Path := ⟨p.anchor, p.parts.dropLast⟩

/-- The parents of a path of so many parts, the nearest first. -/
def ancestorsUpTo (p : Path) : Nat → List Path
  | 0 => []
  | n + 1 => p.parent :: ancestorsUpTo p.parent n

def ancestors (p : Path) : List Path := p.ancestorsUpTo p.parts.length

def up : Text := ".."

end Path
end CatalogTypes
