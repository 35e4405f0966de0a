import CatalogTypes.CommandLine.Usage
import CatalogTypes.Generation
import CatalogTypes.Settings
import CatalogTypes.Status

/-! # The command

The command lists what was generated, checks whether anything was, or generates. Its exit code
is zero when all that was asked for is there, one when not, and two for arguments that it does
not understand.
-/
namespace CatalogTypes.CommandLine

def exitCode (success : Bool) : Nat := if success then 0 else 1

/-- The catalogs that the options select: all of them unless some are picked. -/
def selected (o : Options) : Option (List CatalogKind) :=
  if (o.contentTypes || o.sections) && !o.all then
    some ((if o.contentTypes then [CatalogKind.contentTypes] else []) ++
      (if o.sections then [CatalogKind.sections] else []))
  else none

def outputDirectory (o : Options) : Run Path := do
  if !o.outputDir.isEmpty then return Path.ofText o.outputDir
  let w ← Run.world
  Run.onFiles fun _ => Settings.outputDirectory w

def sourceDirectory (o : Options) : Run Path := do
  if !o.sourceDir.isEmpty then return Path.ofText o.sourceDir
  return Settings.sourceDirectory (← Run.world)

def generateEach (g : Generator) : List CatalogKind → Run (List Nat)
  | [] => return []
  | kind :: rest => do
    let count ← g.generateOnly kind
    return count :: (← generateEach g rest)

/-- Generates what was selected, from the catalogs of a directory. Did every catalog give a type? -/
def generate (o : Options) (source : Run Path) (output : Path) : Run Bool := do
  let g ← Generator.create (← source) (.disk output)
  match selected o with
  | none =>
    let counts ← g.generateAll
    return 0 < counts.contentTypes && 0 < counts.sections
  | some kinds =>
    let counts ← generateEach g kinds
    return counts.all (0 < ·)

/-- Does what is asked for in the output directory. The other directory is looked for only when
something is to be generated. -/
def serve (o : Options) (source : Run Path) (output : Path) : Run Nat := do
  if o.list then
    let _ ← Status.available output
    return 0
  if o.status then return exitCode (← Status.complete output)
  let success ← generate o source output
  if success then Run.info "✅ Type generation completed successfully!"
  else Run.note .error "❌ Type generation failed"
  return exitCode success

def perform (o : Options) (library : Dotenv := .standard []) : Run Nat := do
  Settings.load none library
  serve o (sourceDirectory o) (← outputDirectory o)

inductive Outcome where
  | finished (code : Nat)
  | explained
  | refused (e : UsageError)
  deriving DecidableEq, Repr

namespace Outcome

def code : Outcome → Nat
  | .finished code => code
  | .explained => 0
  | .refused _ => 2

def standardOutput : Outcome → Text
  | .explained => help
  | _ => []

def errorOutput : Outcome → Text
  | .refused e => complaint e
  | _ => []

end Outcome

def call (arguments : List Text) (library : Dotenv := .standard []) : Run Outcome :=
  match request arguments with
  | .help => return .explained
  | .refused e => return .refused e
  | .run o => return .finished (← perform o library)

end CatalogTypes.CommandLine
