import CatalogTypes.Schema.Reading

/-! # Parts of a schema

Every schema can be asked for what any kind of schema has, and has nothing of what its own kind
leaves out. The schemas that lie in it are told by the path that leads to them.
-/
namespace CatalogTypes.Schema
variable {ε : Type}

def kind : Schema ε → SchemaKind
  | .leaf _ kind => .leaf kind
  | .string _ _ => .string
  | .array _ _ => .array
  | .object _ _ _ => .object

def choices : Schema ε → List ε
  | .string _ choices => choices
  | .leaf _ _ | .array _ _ | .object _ _ _ => []

def items? : Schema ε → Option (Schema ε)
  | .array _ items => items
  | .leaf _ _ | .string _ _ | .object _ _ _ => none

def properties : Schema ε → List (Text × Schema ε)
  | .object _ properties _ => properties
  | .leaf _ _ | .string _ _ | .array _ _ => []

def required : Schema ε → List Text
  | .object _ _ required => required
  | .leaf _ _ | .string _ _ | .array _ _ => []

/-- A step from a schema to one that it is made of. Properties are counted from the first on. -/
inductive Step where
  | items
  | property (position : Nat)
  deriving DecidableEq

def part? (s : Schema ε) : Step → Option (Schema ε)
  | .items => s.items?
  | .property position => s.properties[position]?.map Prod.snd

def at? (s : Schema ε) (path : List Step) : Option (Schema ε) := path.foldlM part? s

theorem at?_cons (s : Schema ε) (step : Step) (path : List Step) :
    s.at? (step :: path) = (s.part? step).bind fun t => t.at? path := rfl

end CatalogTypes.Schema
