import CatalogTypes.Catalog.Walk
import CatalogTypes.Package.TypeFile

/-! # Package files

A package has an index that exports the types of all its units, and a descriptor. Both name the
catalog that the package was generated from.
-/
namespace CatalogTypes.Package

def scope : Text := "@cms-types"

/-- The name of a package with its scope, which is also its directory. -/
def fullName (package : Text) : Text := scope ++ "/" ++ package

/-- The catalog of a package, or the name of the package if it has none. -/
def source (package : Text) : Text :=
  ((CatalogKind.all.find? (·.name = package)).map CatalogKind.fileName).getD package

def indexFile (package : Text) (exports : List Text) : Text :=
  "/**\n * TypeBox types generated automatically from " ++ source package ++
    "\n *\n * Usage:\n * import \x7b MenuMenuhotbarType, CarouselType \x7d from '" ++
      fullName package ++
    "';\n */\n\n" ++ Text.lines exports ++
    "\n\n// Re-export TypeBox utilities\nexport \x7b Type, Static \x7d from '" ++
      typeBoxModule ++ "';\n"

def descriptor (name description : Text) : Json :=
  .object [("name", .string name), ("version", .string "1.0.0"),
    ("description", .string description),
    ("main", .string "index.ts"), ("types", .string "index.d.ts"), ("private", .bool true),
    ("dependencies", .object [(typeBoxModule, .string "^0.32.0")])]

def descriptorText (name description : Text) : Text :=
  (descriptor name description).writeLines .ascii "\n"

def descriptorFile (package : Text) : Text :=
  descriptorText (fullName package) ("Generated TypeBox types from " ++ source package)

/-- A file by its path below the output directory, and its text. -/
structure OutputFile where
  path : Text
  content : Text
  deriving DecidableEq, Repr

def fileAt (package name content : Text) : OutputFile := ⟨fullName package ++ "/" ++ name, content⟩

def unitFiles (package : Text) (units : List TypeUnit) : List OutputFile :=
  units.map fun u => fileAt package u.fileName (typeFile u)

def packageFiles (package : Text) (units : List TypeUnit) : List OutputFile :=
  let index := indexFile package (units.map TypeUnit.exportLine)
  [fileAt package "index.ts" index, fileAt package "index.d.ts" index,
    fileAt package "package.json" (descriptorFile package)]

/-- All files of a package. Without units there are none, so that an empty catalog leaves an
earlier package as it is. -/
def files (package : Text) (units : List TypeUnit) : List OutputFile :=
  if units.isEmpty then [] else unitFiles package units ++ packageFiles package units

end CatalogTypes.Package
