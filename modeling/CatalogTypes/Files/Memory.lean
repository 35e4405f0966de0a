import CatalogTypes.Failure
import CatalogTypes.Files.Path

/-! # Files in memory

A store keeps texts under the paths as they were given, and directories under their normal
spelling. A file needs its directory, and may lie under none of the read-only beginnings.
-/
namespace CatalogTypes

structure Memory where
  files : List (Text × Text)
  directories : List Text
  readOnly : List Text
  deriving DecidableEq, Repr

namespace Memory

def empty (readOnly : List Text) : Memory := ⟨[], [], readOnly⟩

def insertNew (directory : Text) (directories : List Text) : List Text :=
  if directories.contains directory then directories else directories ++ [directory]

/-- A directory and its parents as far as they have names. -/
def withAncestors (p : Path) : List Text :=
  p.toText :: ((p.ancestors.filter (· ≠ Path.here)).map Path.toText)

def ensureDirectory (m : Memory) (path : Text) : Memory :=
  { m with
    directories := (withAncestors (.ofText path)).foldl (fun ds d => insertNew d ds) m.directories }

def write (m : Memory) (path content : Text) : Except MemoryError Memory :=
  let parent := (Path.ofText path).parent
  if m.readOnly.any (·.isPrefixOf path) then .error (.readOnly path)
  else if parent ≠ Path.here ∧ !m.directories.contains parent.toText then
    .error (.noDirectory parent.toText)
  else .ok { m with files := Association.put path content m.files }

def read (m : Memory) (path : Text) : Except MemoryError Text :=
  match m.files.lookup path with
  | some content => .ok content
  | none => .error (.noFile path)

def contains (m : Memory) (path : Text) : Bool :=
  (m.files.lookup path).isSome || m.directories.contains path

theorem read_of_write {m next : Memory} {path content : Text}
    (h : m.write path content = .ok next) :
    next.read path = .ok content := by
  simp only [write] at h
  split at h <;> try contradiction
  split at h <;> try contradiction
  cases h
  simp [read]

theorem read_of_write_ne {m next : Memory} {path content other : Text}
    (h : m.write path content = .ok next) (hne : other ≠ path) :
    next.read other = m.read other := by
  simp only [write] at h
  split at h <;> try contradiction
  split at h <;> try contradiction
  cases h
  simp [read, Association.lookup_put_of_ne hne]

end Memory
end CatalogTypes
