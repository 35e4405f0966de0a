import CatalogTypes.Catalog.TypeUnit
import CatalogTypes.Identifier.Pool
import CatalogTypes.Json.Display
import CatalogTypes.Log

/-! # Walking catalogs

The two kinds of catalog nest their schemas differently. Each is searched for the places where
a schema stands, in document order, and every schema found becomes a unit under a fresh
identifier. Entries of the wrong shape hold no schemas. The walk ends at the first schema that
is refused.
-/
namespace CatalogTypes

inductive CatalogKind where
  | contentTypes
  | sections
  deriving DecidableEq, Repr

/-- A schema in a catalog, with the name that its identifier is made of. -/
structure Occurrence where
  name : Text
  schema : Json

namespace Occurrence

/-- An entry holds a schema if its schema is an object. -/
def ofEntry? (name : Text) (entry : Json) : Option Occurrence :=
  ((entry.member? (text "schema")).filter Json.isObject).map fun schema => ⟨name, schema⟩

def nested (name : Text) (record : Json) : List Json :=
  ((record.member? name).map Json.objects).getD []

def displayName (record : Json) : Text :=
  match record.member? (text "name") with
  | none | some .null => []
  | some name => name.display

/-- A configuration is named after its content type, its set and itself. -/
def inContentTypes (catalog : List Json) : List Occurrence :=
  (catalog.filter Json.isObject).flatMap fun contentType =>
    (nested (text "configurationSchemaSets") contentType).flatMap fun set =>
      (nested (text "configurations") set).filterMap fun configuration =>
        ofEntry? (displayName contentType ++ displayName set ++ displayName configuration)
          configuration

/-- A section without a name is named after its position. -/
def sectionName (position : Nat) (entry : Json) : Text :=
  match (entry.member? (text "name")).filter (!·.isEmpty) with
  | some name => name.display
  | none => "Section" ++ Text.ofNat position

def inSections (catalog : List Json) : List Occurrence :=
  catalog.zipIdx.filterMap fun (entry, position) => ofEntry? (sectionName position entry) entry

end Occurrence

namespace CatalogKind

def name : CatalogKind → Text
  | .contentTypes => "content-types"
  | .sections => "sections"

def fileName : CatalogKind → Text
  | .contentTypes => "content-types.json"
  | .sections => "sections.json"

def headline : CatalogKind → Text
  | .contentTypes => "📋 Generating Content-Types types..."
  | .sections => "📄 Generating Sections types..."

def occurrences : CatalogKind → List Json → List Occurrence
  | .contentTypes => Occurrence.inContentTypes
  | .sections => Occurrence.inSections

def all : List CatalogKind := [.contentTypes, .sections]

end CatalogKind

/-- What happens on a walk: an identifier is handed out, or a unit is finished. -/
inductive WalkEvent where
  | assignment (a : Identifier.Pool.Assignment)
  | unit (u : TypeUnit)

/-- The events of a walk, and its units unless a schema was refused. -/
structure Walk where
  events : List WalkEvent
  result : Except SchemaError (List TypeUnit)

namespace Walk

def ofOccurrences (pool : Identifier.Pool) : List Occurrence → Walk
  | [] => ⟨[], .ok []⟩
  | o :: rest =>
    let (assignment, pool) := pool.assign o.name
    match Schema.ofJson o.schema with
    | .error e => ⟨[.assignment assignment], .error e⟩
    | .ok s =>
      let u := TypeUnit.ofSchema assignment.identifier s
      let walk := ofOccurrences pool rest
      ⟨.assignment assignment :: .unit u :: walk.events, walk.result.map (u :: ·)⟩

def ofCatalog (kind : CatalogKind) (catalog : List Json) : Walk :=
  ofOccurrences .empty (kind.occurrences catalog)

/-- The units that were finished, also when a later schema was refused. -/
def seen (w : Walk) : List TypeUnit :=
  w.events.filterMap fun
    | .unit u => some u
    | .assignment _ => none

/-- The report of a walk. Units are left out when they are observed in another way. -/
def report (observed : Bool) (w : Walk) : Log :=
  w.events.flatMap fun
    | .assignment a => a.report
    | .unit u => if observed then [] else [⟨.info, u.summary⟩]

end Walk
end CatalogTypes
