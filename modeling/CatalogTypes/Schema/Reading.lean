import CatalogTypes.Schema.Basic
import CatalogTypes.Json.Graph

/-! # Reading schemas

A schema is read from a value one level at a time, so the same reader serves trees and values
that share their parts. Keywords of the wrong type count as absent. An object that lies inside
itself is refused, and so is one that lies deeper than the limit.
-/
namespace CatalogTypes

inductive SchemaError where
  | cyclic (depth : Nat)
  | tooDeep (limit : Int)
  deriving DecidableEq, Repr

def SchemaError.message : SchemaError → Text
  | .cyclic depth => "Cyclic schema detected at depth " ++ Text.ofNat depth
  | .tooDeep limit => "Schema nesting exceeds maximum depth of " ++ Text.ofInt limit

/-- What a reader sees of a value without looking into its parts. -/
inductive Level (α : Type) where
  | object (members : List (Text × α))
  | array (items : List α)
  | string (value : Text)
  | other

/-- A way to hold values: what they are at the top, and which are one and the same object. -/
structure Source (α : Type) where
  level : α → Level α
  identity : α → Option Nat

namespace Source

/-- In a tree no object is met twice. -/
def tree : Source Json where
  level
    | .object members => .object members
    | .array items => .array items
    | .string s => .string s
    | _ => .other
  identity _ := none

def graph (g : Json.Graph) : Source Json.Ref where
  level ref := match ref, g.cell? ref with
    | _, some (.object members) => .object members
    | _, some (.array items) => .array items
    | .scalar (.string s), none => .string s
    | _, none => .other
  identity
    | .scalar _ => none
    | .cell place => some place

variable {α : Type} (src : Source α)

def isObject (raw : α) : Bool :=
  match src.level raw with
  | .object _ => true
  | _ => false

def text? (raw : α) : Option Text :=
  match src.level raw with
  | .string s => some s
  | _ => none

def caption (members : List (Text × α)) : Caption where
  title := (members.lookup (text "title")).bind src.text?
  description := (members.lookup (text "description")).bind src.text?

def choices (members : List (Text × α)) : List α :=
  match (members.lookup (text "enum")).map src.level with
  | some (.array values) => values
  | _ => []

def items? (members : List (Text × α)) : Option α :=
  (members.lookup (text "items")).filter src.isObject

def properties (members : List (Text × α)) : List (Text × α) :=
  match (members.lookup (text "properties")).map src.level with
  | some (.object properties) => properties
  | _ => []

def required (members : List (Text × α)) : List Text :=
  match (members.lookup (text "required")).map src.level with
  | some (.array names) => Text.sortedSet (names.filterMap src.text?)
  | _ => []

def isEnclosed (enclosing : List Nat) (raw : α) : Bool :=
  match src.identity raw with
  | some i => enclosing.contains i
  | none => false

def enclose (enclosing : List Nat) (raw : α) : List Nat :=
  (src.identity raw).toList ++ enclosing

end Source

inductive SchemaKind where
  | leaf (kind : LeafKind)
  | string
  | array
  | object
  deriving DecidableEq, Repr

def SchemaKind.names : List (Text × SchemaKind) :=
  [("string", .string), ("number", .leaf .number), ("integer", .leaf .integer),
    ("boolean", .leaf .boolean), ("array", .array), ("object", .object), ("null", .leaf .null)]

/-- The kind that a name declares; an unknown name declares nothing. -/
def SchemaKind.ofName (name : Text) : SchemaKind := (names.lookup name).getD (.leaf .unknown)

def Source.kind {α : Type} (src : Source α) (members : List (Text × α)) : SchemaKind :=
  ((members.lookup (text "type")).bind src.text?).elim (.leaf .unknown) SchemaKind.ofName

namespace Schema

variable {α : Type}

def readProperties (child : α → Except SchemaError (Schema α)) :
    List (Text × α) → Except SchemaError (List (Text × Schema α))
  | [] => .ok []
  | (name, raw) :: rest => do
    let s ← child raw
    let rest ← readProperties child rest
    return (name, s) :: rest

/-- Reads an object by its members, given how values one level further down are read. -/
def readMembers (src : Source α) (inner : α → Except SchemaError (Schema α))
    (members : List (Text × α)) :
    Except SchemaError (Schema α) :=
  let caption := src.caption members
  match src.kind members with
  | .leaf kind => .ok (.leaf caption kind)
  | .string => .ok (.string caption (src.choices members))
  | .array => match src.items? members with
    | none => .ok (.array caption none)
    | some items => (inner items).map fun s => .array caption (some s)
  | .object => (readProperties inner (src.properties members)).map fun ps =>
      .object caption ps (src.required members)

/-- Reads a value that lies `depth` levels down, below the objects `enclosing` it. There is room
for as many levels as the limit still allows. -/
def readAt (src : Source α) (limit : Int) :
    (room depth : Nat) → (enclosing : List Nat) → α → Except SchemaError (Schema α)
  | room, depth, enclosing, raw =>
    match src.level raw with
    | .object members =>
      if src.isEnclosed enclosing raw then .error (.cyclic depth)
      else match room with
        | 0 => .error (.tooDeep limit)
        | room + 1 =>
          readMembers src (readAt src limit room (depth + 1) (src.enclose enclosing raw)) members
    | _ => .ok anything

/-- Reads a value as a schema whose objects lie at most `limit` levels deep. -/
def read (src : Source α) (limit : Int) (raw : α) : Except SchemaError (Schema α) :=
  readAt src limit (limit + 1).toNat 0 [] raw

def defaultLimit : Int := 64

def ofJson (raw : Json) : Except SchemaError (Schema Json) := read .tree defaultLimit raw

end Schema
end CatalogTypes
