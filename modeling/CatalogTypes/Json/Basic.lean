import CatalogTypes.Association
import CatalogTypes.Text
import CatalogTypes.Decimal.Binary64

/-! # JSON values

Integers are kept apart from doubles and have no bound. The members of an object stay in the
order in which their names first occurred.
-/
namespace CatalogTypes

inductive Json where
  | null
  | bool (value : Bool)
  | int (value : Int)
  | float (value : Binary64)
  | string (value : Text)
  | array (items : List Json)
  | object (members : List (Text × Json))
  deriving Inhabited, Repr

namespace Json

def member? (name : Text) : Json → Option Json
  | .object members => members.lookup name
  | _ => none

def isObject : Json → Bool
  | .object _ => true
  | _ => false

def objects : Json → List Json
  | .array items => items.filter isObject
  | _ => []

end Json
end CatalogTypes
