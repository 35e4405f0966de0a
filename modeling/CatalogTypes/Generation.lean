import CatalogTypes.Catalog.File
import CatalogTypes.Package.Emission

/-! # Generation

A generator turns each catalog of a directory into a package. The catalogs are independent: one
that cannot be read, or whose package cannot be written, counts as zero types and the other one
is generated all the same.
-/
namespace CatalogTypes

structure Generator where
  source : Path
  output : Output

structure Counts where
  contentTypes : Nat
  sections : Nat
  deriving DecidableEq, Repr

def Counts.total (c : Counts) : Nat := c.contentTypes + c.sections

namespace Generator

/-- A generator makes the directories of both packages before anything else. -/
def create (source : Path) (output : Output) : Run Generator := do
  Package.prepare output CatalogKind.contentTypes.name
  Package.prepare output CatalogKind.sections.name
  return ⟨source, output⟩

def catalogPath (g : Generator) (kind : CatalogKind) : Path := g.source ++ Path.ofText kind.fileName

def write (g : Generator) (kind : CatalogKind) (units : List TypeUnit) : Run Nat := do
  match ← (Package.emit g.output kind.name units).attempt with
  | .ok count => return count
  | .error e =>
    if !e.isFileFault then throw e
    Run.note .error ("❌ Error writing " ++ Package.fullName kind.name ++ ": " ++ e.message)
    return 0

def generate (g : Generator) (kind : CatalogKind) : Run Nat := do
  match ← (unitsOfFile kind (g.catalogPath kind)).attempt with
  | .ok units => g.write kind units
  | .error e =>
    if !e.isCatalogFault then throw e
    Run.note .error ("❌ Error generating " ++ kind.name ++ ": " ++ e.message)
    return 0

def rule : Text := List.replicate 70 ('=' : CodePoint)

def generateAll (g : Generator) : Run Counts := do
  Run.info "🔨 Unified CMS TypeBox Type Generator"
  Run.info rule
  Run.info "📋 CONTENT-TYPES"
  let contentTypes ← g.generate .contentTypes
  Run.info rule
  Run.info "📄 SECTIONS"
  let sections ← g.generate .sections
  Run.info rule
  let counts : Counts := ⟨contentTypes, sections⟩
  Run.info "🎉 BUILD COMPLETE!"
  Run.info ("📊 Total: " ++ Text.ofNat counts.total ++ " types generated")
  Run.info ("   📋 Content-types: " ++ Text.ofNat contentTypes ++ " types")
  Run.info ("   📄 Sections: " ++ Text.ofNat sections ++ " types")
  Run.info ("📚 Usage: import \x7b CarouselType \x7d from \"" ++
    Package.fullName CatalogKind.sections.name ++ "\";")
  return counts

def onlyHeadline : CatalogKind → Text
  | .contentTypes => "📋 Generating Content-Types only..."
  | .sections => "📄 Generating Sections only..."

def generateOnly (g : Generator) (kind : CatalogKind) : Run Nat := do
  Run.info (onlyHeadline kind)
  let count ← g.generate kind
  if 0 < count then
    Run.info ("📦 " ++ Text.ofNat count ++ " " ++ kind.name ++ " types generated in " ++
      Package.fullName kind.name)
  return count

end Generator
end CatalogTypes
