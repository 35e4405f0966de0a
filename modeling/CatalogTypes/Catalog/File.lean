import CatalogTypes.Catalog.Walk
import CatalogTypes.Json.Decode
import CatalogTypes.World

/-! # Catalog files

A catalog is a file that holds a JSON array. Whatever keeps it from being read is reported as a
fault of the catalog, with the path by which it was asked for.
-/
namespace CatalogTypes

namespace Catalog

def readJson (files : FileTree) (p : Path) : Except Failure Json := do
  let content ← files.readText p
  (Json.decode content).mapError .json

def load (files : FileTree) (p : Path) : Except Failure (List Json) :=
  match readJson files p with
  | .error e => .error (.unreadableCatalog p.toText e)
  | .ok (.array items) => .ok items
  | .ok value => .error (.catalogNotArray p.toText value.kindName)

end Catalog

/-- Loads a catalog and walks it. The report names the units unless they are observed. A catalog
of no kind can be loaded but not walked. -/
def walkFile (kind : Option CatalogKind) (observed : Bool) (p : Path) : Run Walk := do
  let catalog ← Run.onFiles fun files => Catalog.load files p
  match kind with
  | none => throw .unsupported
  | some kind =>
    Run.info kind.headline
    let walk := Walk.ofCatalog kind catalog
    Run.noteAll (walk.report observed)
    return walk

def unitsOfFile (kind : CatalogKind) (p : Path) : Run (List TypeUnit) := do
  let walk ← walkFile (some kind) false p
  match walk.result with
  | .ok units => return units
  | .error e => throw (.schema e)

end CatalogTypes
