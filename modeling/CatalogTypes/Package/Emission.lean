import CatalogTypes.Output
import CatalogTypes.Package.Index

/-! # Emission

A package is written unit by unit, then its index and its descriptor, so that the index never
names a file that was not written before it.
-/
namespace CatalogTypes.Package

def prepare (out : Output) (package : Text) : Run Unit := do
  out.ensureDirectory scope
  out.ensureDirectory (fullName package)

def writeAll (out : Output) : List OutputFile → Run Unit
  | [] => return
  | file :: rest => do
    out.write file.path file.content
    writeAll out rest

def emit (out : Output) (package : Text) (units : List TypeUnit) : Run Nat := do
  prepare out package
  writeAll out (files package units)
  if units.isEmpty then return 0
  Run.info ("📦 Package created: " ++ fullName package)
  return units.length

end CatalogTypes.Package
