import CatalogTypes.Json.Basic
import CatalogTypes.Decimal.Layout
import CatalogTypes.Text.Quoted

/-! # Names that are not strings

A catalog may name its entries with any value. The name is then the value's display form: a
string is its own, and inside arrays and objects strings are quoted.
-/
namespace CatalogTypes.Json

def displayNames : Binary64.SpecialNames := ⟨"inf", "nan"⟩

mutual

def displayInner : Json → Text
  | .null => "None"
  | .bool true => "True"
  | .bool false => "False"
  | .int n => Text.ofInt n
  | .float x => x.render displayNames
  | .string s => s.quoted
  | .array items => "[" ++ displayItems items ++ "]"
  | .object members => "\x7b" ++ displayMembers members ++ "\x7d"

def displayItems : List Json → Text
  | [] => []
  | [item] => displayInner item
  | item :: next :: rest => displayInner item ++ ", " ++ displayItems (next :: rest)

def displayMembers : List (Text × Json) → Text
  | [] => []
  | [(name, value)] => name.quoted ++ ": " ++ displayInner value
  | (name, value) :: next :: rest =>
    name.quoted ++ ": " ++ displayInner value ++ ", " ++ displayMembers (next :: rest)

end

def display : Json → Text
  | .string s => s
  | value => value.displayInner

/-- The empty values: those that stand for no name where a name may be left out. -/
def isEmpty : Json → Bool
  | .null => true
  | .bool value => !value
  | .int n => n = 0
  | .float x => x.isZero
  | .string s => s.isEmpty
  | .array items => items.isEmpty
  | .object members => members.isEmpty

def kindName : Json → Text
  | .null => "NoneType"
  | .bool _ => "bool"
  | .int _ => "int"
  | .float _ => "float"
  | .string _ => "str"
  | .array _ => "list"
  | .object _ => "dict"

end CatalogTypes.Json
