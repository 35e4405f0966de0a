import CatalogTypes.Schema.Reading
import CatalogTypes.TypeBox.Expr

/-! # Type units

A unit is the type generated for one schema, ready to be written to a file of its own.
-/
namespace CatalogTypes

structure TypeUnit where
  identifier : Text
  expression : Text
  typeAlias : Text
  title : Option Text
  description : Option Text
  deriving DecidableEq, Repr

namespace TypeUnit

def ofSchema (identifier : Text) (s : Schema Json) : TypeUnit where
  identifier := identifier
  expression := TypeBox.ofSchema [] s
  typeAlias := TypeBox.typeAlias identifier
  title := s.caption.title
  description := s.caption.description

def fileName (u : TypeUnit) : Text := u.identifier ++ ".ts"

def exportLine (u : TypeUnit) : Text :=
  "export \x7b " ++ u.identifier ++ "Schema, " ++ u.identifier ++ "Type \x7d from './" ++
    u.identifier ++ "';"

def summary (u : TypeUnit) : Text :=
  match u.title with
  | none | some [] => "✅ " ++ u.identifier
  | some title => "✅ " ++ u.identifier ++ " (" ++ title ++ ")"

end TypeUnit
end CatalogTypes
