import CatalogTypes.Files.Memory
import CatalogTypes.Files.Tree

/-! # Changes

What a step did to the files: those that are new or have other contents, those that are gone,
and the directories that there are now.
-/
namespace CatalogTypes

/-- Files by name, with contents of any type, and the names of directories. -/
structure Snapshot (α : Type) where
  files : List (Text × α)
  directories : List Text

structure Changes (α : Type) where
  changed : List (Text × α)
  removed : List Text
  directories : List Text

def Snapshot.changesFrom {α : Type} [DecidableEq α] (before now : Snapshot α) : Changes α where
  changed := now.files.filter fun f => before.files.lookup f.1 ≠ some f.2
  removed :=
    Text.sortedSet ((before.files.map Prod.fst).filter fun name => (now.files.lookup name).isNone)
  directories := Text.sortedSet now.directories

def Memory.snapshot (m : Memory) : Snapshot Text := ⟨m.files, m.directories⟩

def FileTree.namesBelow (tree : FileTree) (top : Location) : List (Text × Entry) :=
  tree.entries.filterMap fun (place, entry) =>
    if top.isPrefixOf place ∧ place ≠ top then
      some (List.intercalate (text "/") (place.drop top.length), entry)
    else none

def FileTree.snapshot (tree : FileTree) : Snapshot Utf8.Bytes where
  files := (tree.namesBelow tree.workDirectory).filterMap fun
    | (name, .file content) => some (name, content)
    | (_, .directory) => none
  directories := (tree.namesBelow tree.workDirectory).filterMap fun
    | (name, .directory) => some name
    | (_, .file _) => none

end CatalogTypes
