import CatalogTypes.Proofs.Catalog.Growth
import CatalogTypes.Proofs.Catalog.Units
import Mathlib.Data.List.Forall2

/-! # Entries that hold no schema

A catalog of content types can be pruned: what holds no schema is taken out of its arrays, and so is
every set and every content type that has nothing left then. A walk makes no difference between a
catalog and what is left of it. Sections cannot be taken out, because those behind them are named
after their positions, but one that holds no schema may be replaced by any other that holds none.
-/
namespace CatalogTypes
open Identifier

namespace Json

/-- An entry of which a walk takes notice. -/
def holdsSchema (entry : Json) : Bool := (entry.member? (text "schema")).any isObject

def withEntries (name : Text) (entries : List Json) : Json → Json
  | .object members => .object (Association.put name (.array entries) members)
  | record => record

end Json

namespace Occurrence
open Json

section Replaced
variable {name other : Text} {entries : List Json} {record : Json}

theorem entriesOf_withEntries (h : record.isObject) :
    entriesOf name (record.withEntries name entries) = entries := by
  cases record with
  | object members => simp [entriesOf, withEntries, member?]
  | _ => cases h

theorem member?_withEntries (h : other ≠ name) :
    (record.withEntries name entries).member? other = record.member? other := by
  cases record with
  | object members => exact Association.lookup_put_of_ne h _ _
  | _ => rfl

theorem displayName_withEntries (h : text "name" ≠ name) :
    displayName (record.withEntries name entries) = displayName record := by
  rw [displayName, displayName, member?_withEntries h]

theorem isObject_of_entriesOf_ne_nil (h : entriesOf name record ≠ []) : record.isObject := by
  cases ho : record.isObject with
  | true => rfl
  | false => exact absurd (entriesOf_of_not_isObject ho name) h

end Replaced

/-- What is left of a record when the entries of an array are pruned, if any of them is left. -/
def pruneRecord? (name : Text) (prune? : Json → Option Json) (record : Json) : Option Json :=
  let left := (entriesOf name record).filterMap prune?
  if left.isEmpty then none else some (record.withEntries name left)

def pruneConfiguration? (configuration : Json) : Option Json :=
  if configuration.holdsSchema then some configuration else none

def pruneSet? : Json → Option Json := pruneRecord? (text "configurations") pruneConfiguration?

def pruneContentType? : Json → Option Json :=
  pruneRecord? (text "configurationSchemaSets") pruneSet?

def pruned (catalog : List Json) : List Json := catalog.filterMap pruneContentType?

/-- A record that holds entries, all of which are needed. -/
structure Needed (name : Text) (needed : Json → Prop) (record : Json) : Prop where
  ne_nil : entriesOf name record ≠ []
  entries {entry : Json} (h : entry ∈ entriesOf name record) : needed entry

def NeededSet : Json → Prop := Needed (text "configurations") (·.holdsSchema)

def NeededContentType : Json → Prop := Needed (text "configurationSchemaSets") NeededSet

section Prune
variable {name : Text} {prune? : Json → Option Json} {record left : Json}

theorem pruneRecord?_eq_some (h : pruneRecord? name prune? record = some left) :
    record.isObject ∧ (entriesOf name record).filterMap prune? ≠ [] ∧
      left = record.withEntries name ((entriesOf name record).filterMap prune?) := by
  simp only [pruneRecord?] at h
  split at h
  · cases h
  next hne =>
    cases h
    have hleft : (entriesOf name record).filterMap prune? ≠ [] := by simpa using hne
    have hentries : entriesOf name record ≠ [] := by
      intro hn
      rw [hn, List.filterMap_nil] at hleft
      exact hleft rfl
    exact ⟨isObject_of_entriesOf_ne_nil hentries, hleft, rfl⟩

theorem needed_of_pruneRecord? {needed : Json → Prop}
    (hp : ∀ {entry kept}, prune? entry = some kept → needed kept)
    (h : pruneRecord? name prune? record = some left) : Needed name needed left := by
  obtain ⟨ho, hne, rfl⟩ := pruneRecord?_eq_some h
  constructor
  · rwa [entriesOf_withEntries ho]
  · intro entry hentry
    rw [entriesOf_withEntries ho] at hentry
    obtain ⟨_, _, hkept⟩ := List.mem_filterMap.mp hentry
    exact hp hkept

theorem needed_pruned {catalog : List Json} {contentType : Json}
    (h : contentType ∈ pruned catalog) :
    NeededContentType contentType := by
  obtain ⟨_, _, hleft⟩ := List.mem_filterMap.mp h
  refine needed_of_pruneRecord? (needed_of_pruneRecord? ?_) hleft
  intro configuration kept hkept
  rw [pruneConfiguration?] at hkept
  split at hkept
  next hs =>
    cases hkept
    exact hs
  · cases hkept

theorem flatMap_filterMap {β : Type} {g : Json → List β}
    (h : ∀ a, (prune? a).toList.flatMap g = g a) (entries : List Json) :
    (entries.filterMap prune?).flatMap g = entries.flatMap g := by
  rw [List.filterMap_eq_flatMap_toList, List.flatMap_assoc]
  exact congrArg (entries.flatMap ·) (funext h)

theorem flatMap_pruneRecord? {β : Type} {g : Json → Json → List β}
    (hg : ∀ record entries, g (record.withEntries name entries) = g record)
    (hp : ∀ record entry, (prune? entry).toList.flatMap (g record) = g record entry)
    (record : Json) :
    (pruneRecord? name prune? record).toList.flatMap (fun r => (entriesOf name r).flatMap (g r)) =
      (entriesOf name record).flatMap (g record) := by
  rw [← flatMap_filterMap (hp record)]
  cases hr : pruneRecord? name prune? record with
  | none =>
    have hnil : (entriesOf name record).filterMap prune? = [] := by
      simpa [pruneRecord?] using hr
    rw [hnil]
    rfl
  | some left =>
    obtain ⟨ho, _, rfl⟩ := pruneRecord?_eq_some hr
    simp only [Option.toList_some, List.flatMap_cons, List.flatMap_nil, List.append_nil, hg,
      entriesOf_withEntries ho]

end Prune

theorem ofEntry?_of_not_holdsSchema {entry : Json} (h : entry.holdsSchema = false) (name : Text) :
    ofEntry? name entry = none := by
  unfold holdsSchema at h
  unfold ofEntry?
  cases hm : entry.member? (text "schema") with
  | none => rfl
  | some schema =>
    rw [hm, Option.any_some] at h
    simp [h]

theorem flatMap_pruneConfiguration? (contentType set configuration : Json) :
    (pruneConfiguration? configuration).toList.flatMap
      (fun c => (ofConfiguration? contentType set c).toList) =
      (ofConfiguration? contentType set configuration).toList := by
  rw [pruneConfiguration?]
  split
  · exact List.append_nil _
  next h =>
    have hnone : ofConfiguration? contentType set configuration = none :=
      ofEntry?_of_not_holdsSchema (by simpa using h) _
    rw [hnone]
    rfl

theorem flatMap_pruneSet? (contentType set : Json) :
    (pruneSet? set).toList.flatMap (inSet contentType) = inSet contentType set := by
  refine flatMap_pruneRecord? (g := fun set c =>
    (ofConfiguration? contentType set c).toList) ?_ ?_ set
  · intro set entries
    simp only [ofConfiguration?,
      displayName_withEntries (show text "name" ≠ text "configurations" by decide)]
  · exact flatMap_pruneConfiguration? contentType

theorem flatMap_pruneContentType? (contentType : Json) :
    (pruneContentType? contentType).toList.flatMap inContentType = inContentType contentType := by
  refine flatMap_pruneRecord? (g := inSet) ?_ flatMap_pruneSet? contentType
  intro contentType entries
  exact funext (inSet_congr (displayName_withEntries (by decide)))

/-- A catalog and what is left of it have the same schemas, in the same order and under the same
names. -/
theorem inContentTypes_pruned (catalog : List Json) :
    inContentTypes (pruned catalog) = inContentTypes catalog := by
  rw [inContentTypes_eq, inContentTypes_eq, pruned, flatMap_filterMap flatMap_pruneContentType?]

/-- An entry in the place of another one: the same, or one that holds no schema either. -/
def Replaces (entry other : Json) : Prop :=
  other = entry ∨ entry.holdsSchema = false ∧ other.holdsSchema = false

theorem inSections_of_replaces {catalog others : List Json}
    (h : List.Forall₂ Replaces catalog others) :
    inSections others = inSections catalog := by
  have hfrom (first : Nat) : (others.zipIdx first).filterMap (fun placed =>
        ofSection? placed.2 placed.1) =
      (catalog.zipIdx first).filterMap (fun placed => ofSection? placed.2 placed.1) := by
    induction h generalizing first with
    | nil => rfl
    | @cons entry other catalog others hr _ ih =>
      have hsame : ofSection? first other = ofSection? first entry := by
        rcases hr with rfl | ⟨he, ho⟩
        · rfl
        · rw [ofSection?, ofSection?, ofEntry?_of_not_holdsSchema he,
            ofEntry?_of_not_holdsSchema ho]
      simp only [List.zipIdx_cons, List.filterMap_cons, hsame, ih]
  exact hfrom 0

end Occurrence

namespace Walk
open Occurrence

/-- A walk takes no notice of what holds no schema: it makes the same units, or is refused in the
same way after the same units, when all of it is taken out of a catalog of content types, and when
sections that hold no schema are replaced by others. -/
theorem schemaless_entries_unnoticed :
    (∀ catalog : List Json, (∀ contentType ∈ pruned catalog, NeededContentType contentType) ∧
      ofCatalog .contentTypes (pruned catalog) = ofCatalog .contentTypes catalog) ∧
    ∀ catalog others : List Json, List.Forall₂ Replaces catalog others →
      ofCatalog .sections others = ofCatalog .sections catalog :=
  ⟨fun catalog => ⟨fun _ => needed_pruned,
    congrArg (ofOccurrences .empty) (inContentTypes_pruned catalog)⟩,
    fun _ _ h => congrArg (ofOccurrences .empty) (inSections_of_replaces h)⟩

def clutteredCatalog : List Json :=
  [.null, .object [("name", .string "Page"), ("configurationSchemaSets", .array
    [.object [("configurations", .null)],
      .object [("name", .string "Seo"), ("configurations", .array
      [.object [("schema", .array [])], metaConfiguration, .string "Meta"])], .array []])],
    .object [("configurationSchemaSets", .object [])]]

theorem schemaless_entries_unnoticed_cluttered :
    (∃ contentType, pruned clutteredCatalog = [contentType] ∧ NeededContentType contentType) ∧
    ofCatalog .contentTypes (pageCatalog [metaConfiguration]) =
      ofCatalog .contentTypes clutteredCatalog ∧
    List.Forall₂ Replaces (.null :: mixedSections)
      (.object [("name", .string "Hero")] :: mixedSections) ∧
    ofCatalog .sections (.object [("name", .string "Hero")] :: mixedSections) =
      ofCatalog .sections (.null :: mixedSections) := by
  obtain ⟨contentType, hpruned, hpage⟩ :
      ∃ contentType, pruned clutteredCatalog = [contentType] ∧ pageCatalog [metaConfiguration] =
        [contentType] :=
    ⟨_, rfl, rfl⟩
  have hreplaces : List.Forall₂ Replaces (.null :: mixedSections)
      (.object [("name", .string "Hero")] :: mixedSections) :=
    .cons (.inr ⟨rfl, rfl⟩) (List.forall₂_same.mpr fun _ _ => .inl rfl)
  obtain ⟨hneeded, hwalk⟩ := schemaless_entries_unnoticed.1 clutteredCatalog
  rw [hpruned] at hneeded hwalk
  rw [hpage]
  exact ⟨⟨contentType, hpruned, hneeded contentType List.mem_cons_self⟩, hwalk, hreplaces,
    schemaless_entries_unnoticed.2 _ _ hreplaces⟩

end Walk
end CatalogTypes
