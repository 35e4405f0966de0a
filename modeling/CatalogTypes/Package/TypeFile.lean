import CatalogTypes.Catalog.TypeUnit
import CatalogTypes.Text.Lines

/-! # Type files

The file of a unit imports TypeBox, says in a comment where the type comes from, and declares
the schema and its type. Titles and descriptions are free text, so the comment must not let
them close it.
-/
namespace CatalogTypes.Package

def typeBoxModule : Text := "@sinclair/typebox"

def typeBoxImport : Text := "import \x7b Type, Static \x7d from '" ++ typeBoxModule ++ "';"

def defaultDescription : Text := "Generated automatically from the CMS"

/-- Breaks every end of a comment apart. -/
def shieldCommentEnds : Text → Text
  | [] => []
  | [c] => [c]
  | c :: d :: rest =>
    if c = '*' ∧ d = '/' then c :: CodePoint.backslash :: d :: shieldCommentEnds rest
    else c :: shieldCommentEnds (d :: rest)

def commentLine (line : Text) : Text := Text.trimRight (" * " ++ line)

/-- A comment of the title, as it is, and the lines of the description. -/
def docComment (title description : Text) : Text :=
  "/**\n" ++ shieldCommentEnds (Text.lines ((title :: description.splitLines).map commentLine)) ++
    "\n */"

/-- A text that is there and not empty, or else another one. -/
def orElse (t : Option Text) (fallback : Text) : Text :=
  match t with
  | none | some [] => fallback
  | some t => t

def comment (u : TypeUnit) : Text :=
  docComment (orElse u.title u.identifier) (orElse u.description defaultDescription)

def typeFile (u : TypeUnit) : Text :=
  typeBoxImport ++ "\n\n" ++ comment u ++ "\n\n" ++
    TypeBox.schemaDeclaration u.identifier u.expression ++
    "\n\n" ++ u.typeAlias ++ "\n"

end CatalogTypes.Package
