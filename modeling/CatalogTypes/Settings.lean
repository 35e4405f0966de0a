import CatalogTypes.Settings.Dotenv

/-! # Settings

Directories come from the environment, which is first completed from the file of a named
environment, or else from a default file. An empty variable counts as one that is not set.
-/
namespace CatalogTypes.Settings

def sourceVariable : Text := "CMS_TYPES_SOURCE_DIR"
def outputVariable : Text := "CMS_TYPES_OUTPUT_DIR"
def environmentVariable : Text := "ENVIRONMENT"

def named : List Text := ["dev", "prod"]

def fileName (environment : Text) : Text := ".env." ++ environment

def isThere (files : FileTree) (p : Path) : Bool :=
  match files.exists? p with
  | .ok found => found
  | .error _ => false

/-- Completes the environment from the file of the requested environment, or of the one that the
variables name. In an environment that has no file, the default file adds to the variables. -/
def load (requested : Option Text) (library : Dotenv := .standard []) : Run Unit := do
  let w ← Run.world
  let environment := requested.getD ((w.environment.lookup environmentVariable).getD [])
  if named.contains environment then
    let file := fileName environment
    if isThere w.files (Path.ofText file) then
      library.run (some (Path.ofText file)) true
      Run.info ("Loaded environment config: " ++ file)
    else Run.note .warning ("Environment config file not found: " ++ file)
  else
    library.run none false
    if !environment.isEmpty then
      Run.note .warning ("Unknown environment '" ++ environment ++ "', loaded default .env")

def setting? (w : World) (name : Text) : Option Text :=
  (w.environment.lookup name).filter (!·.isEmpty)

def workDirectory (w : World) : Path := ⟨.root, w.files.workDirectory⟩

def sourceDirectory (w : World) : Path :=
  ((setting? w sourceVariable).map Path.ofText).getD (workDirectory w)

def defaultOutput (w : World) : Path := workDirectory w ++ ⟨.relative, ["node_modules"]⟩

/-- The directory that packages are written into. It need not exist, but must not be a file. -/
def outputDirectory (w : World) : Except Failure Path := do
  let p := ((setting? w outputVariable).map Path.ofText).getD (defaultOutput w)
  if (← w.files.exists? p) && !(← w.files.isDirectory? p) then throw (.outputNotDirectory p.toText)
  return p

end CatalogTypes.Settings
