import CatalogTypes.Text

/-! # Schemas

A schema is a closed tree: each kind carries only the keywords that belong to it. Choices are
kept as they were read, of whatever type the values of the source have.
-/
namespace CatalogTypes

structure Caption where
  title : Option Text
  description : Option Text
  deriving DecidableEq, Repr, Inhabited

def Caption.empty : Caption := ⟨none, none⟩

inductive LeafKind where
  | number
  | integer
  | boolean
  | null
  | unknown
  deriving DecidableEq, Repr

/-- Properties keep their order; the required names are a sorted set. -/
inductive Schema (ε : Type) where
  | leaf (caption : Caption) (kind : LeafKind)
  | string (caption : Caption) (choices : List ε)
  | array (caption : Caption) (items : Option (Schema ε))
  | object (caption : Caption) (properties : List (Text × Schema ε)) (required : List Text)
  deriving Inhabited

namespace Schema

variable {ε φ : Type}

def anything : Schema ε := .leaf .empty .unknown

def caption : Schema ε → Caption
  | .leaf c _ => c
  | .string c _ => c
  | .array c _ => c
  | .object c _ _ => c

mutual

/-- Replaces every choice; there is no result if one of them has no replacement. -/
def mapChoices? (f : ε → Option φ) : Schema ε → Option (Schema φ)
  | .leaf c kind => some (.leaf c kind)
  | .string c choices => (choices.mapM f).map (.string c)
  | .array c none => some (.array c none)
  | .array c (some items) => (mapChoices? f items).map fun s => .array c (some s)
  | .object c properties required =>
    (mapProperties? f properties).map fun ps => .object c ps required

def mapProperties? (f : ε → Option φ) : List (Text × Schema ε) → Option (List (Text × Schema φ))
  | [] => some []
  | (name, s) :: rest => do
    let s ← mapChoices? f s
    let rest ← mapProperties? f rest
    return (name, s) :: rest

end

end Schema
end CatalogTypes
