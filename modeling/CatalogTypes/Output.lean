import CatalogTypes.World

/-! # Outputs

Generated files go to a store in memory or below a directory on disk. Either way they are named
by paths from the top of the output. An output of no kind supports nothing.
-/
namespace CatalogTypes

inductive Output where
  | memory
  | disk (root : Path)
  | none
  deriving DecidableEq, Repr

namespace Output

def place (root : Path) (path : Text) : Path := root ++ Path.ofText path

def ensureDirectory (path : Text) : Output → Run Unit
  | .memory => Run.changeMemory fun m => .ok (m.ensureDirectory path)
  | .disk root => Run.changeFiles fun files => files.makeDirectories (place root path)
  | .none => throw .unsupported

def write (path content : Text) : Output → Run Unit
  | .memory => Run.changeMemory fun m => m.write path content
  | .disk root => do
    Run.changeFiles fun files => files.writeText (place root path) content
    Run.note .debug ("Wrote " ++ (place root path).toText)
  | .none => throw .unsupported

def read (path : Text) : Output → Run Text
  | .memory => Run.onMemory fun m => m.read path
  | .disk root => Run.onFiles fun files => files.readText (place root path)
  | .none => throw .unsupported

def contains (path : Text) : Output → Run Bool
  | .memory => Run.onMemory fun m => .ok (m.contains path)
  | .disk root => Run.onFiles fun files => files.exists? (place root path)
  | .none => throw .unsupported

end Output
end CatalogTypes
