import CatalogTypes.Json.Basic

/-! # Shared values

Values in memory may share arrays and objects, and an array or object may even lie inside
itself. A graph keeps each of them in a cell of its own; two references to one cell are
references to the very same value.
-/
namespace CatalogTypes.Json

inductive Scalar where
  | null
  | bool (value : Bool)
  | int (value : Int)
  | float (value : Binary64)
  | string (value : Text)
  deriving Inhabited, DecidableEq

def Scalar.toJson : Scalar → Json
  | .null => .null
  | .bool value => .bool value
  | .int value => .int value
  | .float value => .float value
  | .string value => .string value

/-- A value whose arrays and objects are named by their cells. -/
inductive Ref where
  | scalar (value : Scalar)
  | cell (place : Nat)
  deriving Inhabited, DecidableEq

inductive Cell where
  | array (items : List Ref)
  | object (members : List (Text × Ref))
  deriving Inhabited

structure Graph where
  cells : Array Cell
  root : Ref

inductive Step where
  | name (name : Text)
  | index (n : Nat)

namespace Graph

mutual

/-- Gives a value and its parts cells behind those in use. -/
def store (cells : Array Cell) : Json → Ref × Array Cell
  | .null => (.scalar .null, cells)
  | .bool value => (.scalar (.bool value), cells)
  | .int value => (.scalar (.int value), cells)
  | .float value => (.scalar (.float value), cells)
  | .string value => (.scalar (.string value), cells)
  | .array items =>
    let (refs, cells) := storeItems cells items
    (.cell cells.size, cells.push (.array refs))
  | .object members =>
    let (refs, cells) := storeMembers cells members
    (.cell cells.size, cells.push (.object refs))

def storeItems (cells : Array Cell) : List Json → List Ref × Array Cell
  | [] => ([], cells)
  | item :: rest =>
    let (ref, cells) := store cells item
    let (refs, cells) := storeItems cells rest
    (ref :: refs, cells)

def storeMembers (cells : Array Cell) : List (Text × Json) → List (Text × Ref) × Array Cell
  | [] => ([], cells)
  | (name, value) :: rest =>
    let (ref, cells) := store cells value
    let (refs, cells) := storeMembers cells rest
    ((name, ref) :: refs, cells)

end

/-- The graph in which nothing is shared. -/
def ofJson (value : Json) : Graph :=
  let (root, cells) := store #[] value
  ⟨cells, root⟩

def cell? (g : Graph) : Ref → Option Cell
  | .scalar _ => none
  | .cell place => g.cells[place]?

def part? (g : Graph) (ref : Ref) : Step → Option Ref
  | .name name => match g.cell? ref with
    | some (.object members) => members.lookup name
    | _ => none
  | .index n => match g.cell? ref with
    | some (.array items) => items[n]?
    | _ => none

def follow? (g : Graph) (path : List Step) : Option Ref :=
  path.foldlM g.part? g.root

/-- Lets a step from a value lead to another one from now on. -/
def redirect (g : Graph) (holder : Ref) (step : Step) (target : Ref) : Graph :=
  match holder, g.cell? holder, step with
  | .cell place, some (.object members), .name name =>
    { g with cells := g.cells.setIfInBounds place (.object (Association.put name target members)) }
  | .cell place, some (.array items), .index n =>
    { g with cells := g.cells.setIfInBounds place (.array (items.set n target)) }
  | _, _, _ => g

def link (g : Graph) (holder : List Step) (step : Step) (target : List Step) : Graph :=
  match g.follow? holder, g.follow? target with
  | some h, some t => g.redirect h step t
  | _, _ => g

/-- The value without sharing, `depth` cells deep at most. A value that goes deeper than there
are cells lies inside itself. -/
def expand? (g : Graph) : (depth : Nat) → Ref → Option Json
  | _, .scalar value => some value.toJson
  | 0, .cell _ => none
  | depth + 1, .cell place =>
    match g.cells[place]? with
    | some (.array items) => (items.mapM (expand? g depth)).map .array
    | some (.object members) =>
      (members.mapM fun m => (expand? g depth m.2).map (m.1, ·)).map .object
    | none => none

/-- The tree that a reference unfolds to, if it is finite. -/
def tree? (g : Graph) (ref : Ref) : Option Json := g.expand? g.cells.size ref

end Graph
end CatalogTypes.Json
