import CatalogTypes.Failure
import CatalogTypes.Files.Path
import CatalogTypes.Text.Lines

/-! # File trees

A tree maps locations to directories and files; there are no links. Paths are followed part by
part from the working directory, so a way back up leads only out of a directory that is there.
Names are the same when their bytes are, however they are spelled.
-/
namespace CatalogTypes

open Utf8 (Bytes)

/-- The names on the way down from the root. -/
abbrev Location := List Text

inductive Entry where
  | directory
  | file (content : Bytes)
  deriving DecidableEq, Repr

structure FileTree where
  entries : List (Location × Entry)
  workDirectory : Location
  deriving Repr

namespace FileTree

def get? (tree : FileTree) : Location → Option Entry
  | [] => some .directory
  | place => tree.entries.lookup place

def put (tree : FileTree) (place : Location) (entry : Entry) : FileTree :=
  { tree with entries := Association.put place entry tree.entries }

theorem get?_put (tree : FileTree) {place : Location} (h : place ≠ []) (entry : Entry) :
    (tree.put place entry).get? place = some entry := by
  cases place with
  | nil => exact absurd rfl h
  | cons _ _ => exact Association.lookup_put _ _ _

theorem get?_put_ne (tree : FileTree) {place other : Location} (h : other ≠ place) (entry : Entry) :
    (tree.put place entry).get? other = tree.get? other := by
  cases other with
  | nil => rfl
  | cons _ _ => exact Association.lookup_put_of_ne h _ _

def isDirectoryAt (tree : FileTree) (place : Location) : Bool := tree.get? place = some .directory

def nameSize (name : Text) : Nat := (Utf8.nameBytes name).length

def longestName : Nat := 255
def longestPath : Nat := 4095

def checkedText (p : Path) : Except Failure Text :=
  let t := p.toText
  let fits (c : CodePoint) : Bool := !c.isSurrogate || Utf8.isLoose c
  let fine := t.takeWhile fits
  match t.dropWhile fits with
  | c :: rest => .error (.unencodable ⟨c, fine.length, 1 + (rest.takeWhile (·.isSurrogate)).length⟩)
  | [] => if t.contains 0 then .error .embeddedNull else .ok t

def origin (tree : FileTree) (p : Path) : Location :=
  if p.anchor = .relative then tree.workDirectory else []

def step (tree : FileTree) (place : Location) (part : Text) : Except Obstacle Location :=
  if !tree.isDirectoryAt place then .error .notDirectory
  else if longestName < nameSize part then .error .nameTooLong
  else if part = Path.up then .ok place.dropLast
  else .ok (place ++ [Utf8.settled part])

def follow (tree : FileTree) : Location → List Text → Except Obstacle Location
  | place, [] => .ok place
  | place, part :: rest => do
    let next ← tree.step place part
    if (tree.get? next).isNone then throw .missing
    tree.follow next rest

/-- The location that a path names, whether or not the last part of it exists. -/
def resolve (tree : FileTree) (p : Path) : Except Failure Location := do
  let t ← checkedText p
  let blame {α : Type} (x : Except Obstacle α) : Except Failure α := x.mapError (.file · t)
  if longestPath < nameSize t then throw (.file .nameTooLong t)
  match p.parts.getLast? with
  | none => return tree.origin p
  | some last =>
    let place ← blame (tree.follow (tree.origin p) p.parts.dropLast)
    blame (tree.step place last)

def lookup (tree : FileTree) (p : Path) : Except Failure (Option Entry) :=
  (tree.resolve p).map tree.get?

/-- What a path leads to. Only names that are too long make it impossible to say. -/
def entry? (tree : FileTree) (p : Path) : Except Failure (Option Entry) :=
  match tree.lookup p with
  | .ok e => .ok e
  | .error (.file .nameTooLong t) => .error (.file .nameTooLong t)
  | .error _ => .ok none

def exists? (tree : FileTree) (p : Path) : Except Failure Bool :=
  (tree.entry? p).map (·.isSome)

def isDirectory? (tree : FileTree) (p : Path) : Except Failure Bool :=
  (tree.entry? p).map (· = some .directory)

def readBytes (tree : FileTree) (p : Path) : Except Failure Bytes := do
  match ← tree.lookup p with
  | none => throw (.file .missing p.toText)
  | some .directory => throw (.file .isDirectory p.toText)
  | some (.file content) => return content

/-- Reads a file as text with every line ending a line feed. -/
def readText (tree : FileTree) (p : Path) : Except Failure Text := do
  let bytes ← tree.readBytes p
  let t ← (Utf8.decode bytes).mapError .undecodable
  return t.unifyLineEndings

/-- Makes a file empty, and makes it at all if it is not there. -/
def openForWriting (tree : FileTree) (p : Path) : Except Failure (Location × FileTree) := do
  let place ← tree.resolve p
  if tree.isDirectoryAt place then throw (.file .isDirectory p.toText)
  return (place, tree.put place (.file []))

/-- Writes a text to a file. A text that has no bytes is refused only when the file has already
been emptied. -/
def writeText (tree : FileTree) (p : Path) (content : Text) : Except Failure Unit × FileTree :=
  match tree.openForWriting p with
  | .error e => (.error e, tree)
  | .ok (place, opened) =>
    match Utf8.encode content with
    | .error e => (.error (.unencodable e), opened)
    | .ok bytes => (.ok (), opened.put place (.file bytes))

def makeDirectory (tree : FileTree) (p : Path) : Except Failure FileTree := do
  let place ← tree.resolve p
  if (tree.get? place).isSome then throw (.file .exists p.toText)
  return tree.put place .directory

def ensureDirectory (tree : FileTree) (p : Path) : Except Failure FileTree :=
  match tree.makeDirectory p with
  | .ok made => .ok made
  | .error (.file obstacle t) =>
    match obstacle, tree.isDirectory? p with
    | .missing, _ => .error (.file .missing t)
    | _, .ok true => .ok tree
    | _, _ => .error (.file obstacle t)
  | .error e => .error e

/-- Makes a directory and, from the outermost on, those of its parents that are missing. The
parents that were made stay when a later one is refused. -/
def makeParents (tree : FileTree) (p : Path) : (height : Nat) → Except Failure Unit × FileTree
  | 0 => match tree.ensureDirectory p with
    | .ok made => (.ok (), made)
    | .error e => (.error e, tree)
  | height + 1 => match tree.ensureDirectory p with
    | .ok made => (.ok (), made)
    | .error (.file .missing _) =>
      match tree.makeParents p.parent height with
      | (.error e, tree) => (.error e, tree)
      | (.ok (), tree) => match tree.ensureDirectory p with
        | .ok made => (.ok (), made)
        | .error e => (.error e, tree)
    | .error e => (.error e, tree)

def makeDirectories (tree : FileTree) (p : Path) : Except Failure Unit × FileTree :=
  tree.makeParents p p.parts.length

/-- Where a path leads by its names alone, whether or not anything is there. -/
def locate (tree : FileTree) (p : Path) : Location :=
  p.parts.foldl (fun place part => if part = Path.up then place.dropLast else place ++
    [Utf8.settled part])
    (tree.origin p)

def ofWorkDirectory (place : Location) : FileTree :=
  ⟨(List.range place.length).map fun n => (place.take (n + 1), .directory), place⟩

def plant (tree : FileTree) (place : Location) (entry : Entry) : FileTree :=
  let parents := (List.range place.length).map fun n => place.take n
  let made := parents.foldl (fun t p => if (t.get? p).isSome then t else t.put p .directory) tree
  made.put place entry

def uproot (tree : FileTree) (place : Location) : FileTree :=
  { tree with entries := tree.entries.filter fun e => !place.isPrefixOf e.1 }

end FileTree
end CatalogTypes
