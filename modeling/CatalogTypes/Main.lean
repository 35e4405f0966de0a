import CatalogTypes.CommandLine.Command

/-! # Program

The program takes what the command may look at from the disk, calls the command on it, and then
brings what the command changed back to the disk.
-/
namespace CatalogTypes.Program
open CommandLine

def shown (t : Text) : String := String.ofList (t.map fun c => Char.ofNat c.val)

def entryOnDisk? (name : String) : IO (Option Entry) := do
  let place := (← IO.currentDir) / name
  if ← place.isDir then return some .directory
  if ← place.pathExists then return some (.file (← IO.FS.readBinFile place).toList)
  return none

def namesOnDisk (name : String) : IO (List Text) := do
  let place := (← IO.currentDir) / name
  if ← place.isDir then return (← place.readDir).toList.map fun e => text e.fileName
  return []

/-- Copies a path into a tree, with everything on the way to it. -/
def look (tree : FileTree) (p : Path) : IO FileTree := do
  let steps := (List.range (p.parts.length + 1)).map fun n => (⟨p.anchor, p.parts.take n⟩ : Path)
  steps.foldlM (fun tree step => do
    match ← entryOnDisk? (shown step.toText) with
    | some entry => return tree.plant (tree.locate step) entry
    | none => return tree) tree

def packageDirectory (output : Path) (kind : CatalogKind) : Path :=
  output ++ Path.ofText (Package.fullName kind.name)

/-- The paths that a run looks at: the catalogs, and the packages with all that is in them. -/
def pathsOf (o : Options) (library : Dotenv) (w : World) : IO (List Path) := do
  let (_, w) := (Settings.load none library).result w
  let (source, w) := (sourceDirectory o).result w
  let (output, w) := (outputDirectory o).result w
  let source := source.toOption.getD Path.here
  let output := output.toOption.getD (Settings.defaultOutput w)
  let packages := CatalogKind.all.map (packageDirectory output)
  let written ← packages.mapM fun p => do
    return (← namesOnDisk (shown p.toText)).map fun name => p ++ ⟨.relative, [name]⟩
  return CatalogKind.all.map (fun kind => source ++ Path.ofText kind.fileName) ++ packages ++
    written.flatten

def environmentFiles (home : Location) : List Path :=
  Settings.named.map (fun e => Path.ofText (Settings.fileName e)) ++ Dotenv.candidates home

/-- The variables that the settings are read from, and those that environment files bind or refer
to. -/
def variablesOf (files : FileTree) (home : Location) : List Text :=
  let bindings := (environmentFiles home).flatMap fun p =>
    EnvFile.bindings (EnvFile.statements ((Dotenv.fileText files p).toOption.getD []))
  [Settings.sourceVariable, Settings.outputVariable, Settings.environmentVariable,
    Dotenv.disablingVariable] ++ bindings.map (·.name) ++
    (bindings.filterMap (·.value)).flatMap EnvFile.referencesIn

def readEnvironment (names : List Text) : IO Environment :=
  names.foldlM (fun environment name => do
    match ← IO.getEnv (shown name) with
    | some value => return Association.put name (text value) environment
    | none => return environment) []

def partsOf (place : String) : Location := (Path.ofText (text place)).parts

def home : IO Location := return (partsOf (← IO.appPath).toString).dropLast

def readWorld (arguments : List Text) (home : Location) : IO World := do
  let tree := FileTree.ofWorkDirectory (partsOf (← IO.currentDir).toString)
  let files ← (environmentFiles home).foldlM look tree
  let w := { World.empty with files, environment := ← readEnvironment (variablesOf files home) }
  match request arguments with
  | .run o => return { w with files := ← (← pathsOf o (.standard home) w).foldlM look files }
  | _ => return w

def writeBack (before now : FileTree) : IO Unit :=
  now.entries.forM fun (place, entry) => do
    if before.get? place ≠ some entry then
      let name := shown (Path.toText ⟨.root, place⟩)
      match entry with
      | .directory => IO.FS.createDir name
      | .file content => IO.FS.writeBinFile name ⟨content.toArray⟩

def run (arguments : List Text) : IO UInt32 := do
  let home ← home
  let before ← readWorld arguments home
  let (outcome, now) := (call arguments (.standard home)).result before
  writeBack before.files now.files
  for e in now.log do
    IO.eprintln (shown (e.level.name ++ " " ++ e.message))
  for line in now.warnings do
    IO.eprintln (shown line)
  match outcome with
  | .ok outcome =>
    IO.print (shown outcome.standardOutput)
    IO.eprint (shown outcome.errorOutput)
    return UInt32.ofNat outcome.code
  | .error e =>
    IO.eprintln (shown e.message)
    return 1

end CatalogTypes.Program

def main (arguments : List String) : IO UInt32 :=
  CatalogTypes.Program.run (arguments.map CatalogTypes.text)
