import CatalogTypes.Package.Exports
import CatalogTypes.Package.Index
import CatalogTypes.World

/-! # Status

What has been generated is read off the index files of the packages. An index that files do not
give is reported and left out.
-/
namespace CatalogTypes.Status

def indexPath (output : Path) (kind : CatalogKind) : Path :=
  output ++ ⟨.relative, [Package.scope, kind.name, "index.ts"]⟩

def typeLines (identifiers : List Text) : List Text :=
  identifiers.zipIdx.map fun (identifier, i) =>
    "   " ++ Text.ofNat (i + 1) ++ ". " ++ identifier ++ "Type"

def listPackage (output : Path) (kind : CatalogKind) : Run (Option (List Text)) := do
  let path := indexPath output kind
  if !(← Run.onFiles fun files => files.exists? path) then return none
  match ← (Run.onFiles fun files => files.readText path).attempt with
  | .error e =>
    if !e.isFileFault then throw e
    Run.note .error ("❌ Could not read " ++ path.toText ++ ": " ++ e.message)
    return none
  | .ok index =>
    let identifiers := Package.exportsOf index
    Run.info (Package.fullName kind.name ++ ":")
    Run.noteAll ((typeLines identifiers).map fun line => ⟨.info, line⟩)
    return some identifiers

def listAll (output : Path) : List CatalogKind → Run (List (CatalogKind × List Text))
  | [] => return []
  | kind :: rest => do
    let found ← listPackage output kind
    let more ← listAll output rest
    return (found.toList.map (kind, ·)) ++ more

def available (output : Path) : Run (List (CatalogKind × List Text)) := do
  Run.info "📦 Types available for import:"
  let found ← listAll output CatalogKind.all
  if found.isEmpty then
    Run.info "No generated types found. Run the generator first: python -m cmstypes"
  return found

def checkAll (output : Path) : List CatalogKind → Run Bool
  | [] => return true
  | kind :: rest => do
    let isThere ← Run.onFiles fun files => files.exists? (indexPath output kind)
    Run.info ("   " ++ kind.name ++ ": " ++ (if isThere then text "✅ generated" else "❌ not found"))
    return (← checkAll output rest) && isThere

def complete (output : Path) : Run Bool := do
  Run.info "🔍 Types status:"
  let all ← checkAll output CatalogKind.all
  if !all then Run.info "💡 To generate the types: python -m cmstypes"
  return all

end CatalogTypes.Status
