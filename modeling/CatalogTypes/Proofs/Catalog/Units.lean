import CatalogTypes.Proofs.Catalog.Places
import CatalogTypes.Proofs.Catalog.Walk
import CatalogTypes.Proofs.Schema.Reading

/-! # One unit for each schema

A walk takes the schemas of a catalog in the order of their places and makes one unit of each, up to
the first that is refused. What comes later in the catalog makes no difference to a unit.
-/
namespace CatalogTypes

namespace Schema

theorem caption_of_readMembers {α : Type} {src : Source α}
    {inner : α → Except SchemaError (Schema α)} {members : List (Text × α)} {s : Schema α}
    (h : readMembers src inner members = .ok s) :
    s.caption = src.caption members := by
  cases formed_of_readMembers h <;> rfl

/-- The title and the description of a schema are those of its object, as far as they are texts. -/
theorem caption_of_ofJson {raw : Json} {s : Schema Json} (ho : raw.isObject)
    (h : ofJson raw = .ok s) :
    s.caption.title = (raw.member? (text "title")).bind Source.tree.text? ∧
      s.caption.description = (raw.member? (text "description")).bind Source.tree.text? := by
  cases raw with
  | object members =>
    have hr : ofJson (.object members) =
        readMembers .tree (readAt .tree defaultLimit 64 1 []) members := rfl
    rw [hr] at h
    rw [caption_of_readMembers h]
    exact ⟨rfl, rfl⟩
  | _ => cases ho

end Schema

open Identifier

def Occurrence.Accepted (o : Occurrence) : Prop := ∃ s, Schema.ofJson o.schema = .ok s

/-- A unit tells what a schema is, and what it says of itself. -/
structure TypeUnit.Describes (u : TypeUnit) (schema : Json) : Prop where
  expression : ∃ s, Schema.ofJson schema = .ok s ∧ u.expression = TypeBox.ofSchema [] s
  typeAlias : u.typeAlias = TypeBox.typeAlias u.identifier
  title : u.title = (schema.member? (text "title")).bind Source.tree.text?
  description : u.description = (schema.member? (text "description")).bind Source.tree.text?

theorem TypeUnit.describes_ofSchema {schema : Json} {s : Schema Json} (ho : schema.isObject)
    (h : Schema.ofJson schema = .ok s) (identifier : Text) :
    (TypeUnit.ofSchema identifier s).Describes schema :=
  ⟨⟨s, h, rfl⟩, rfl, (Schema.caption_of_ofJson ho h).1, (Schema.caption_of_ofJson ho h).2⟩

namespace Walk

/-- One unit for each of the occurrences, in their order, under the identifiers that a pool gives to
their names. -/
structure Made (pool : Pool) (occurrences : List Occurrence) (units : List TypeUnit) : Prop where
  length : units.length = occurrences.length
  identifiers : units.map TypeUnit.identifier = pool.assignAll (occurrences.map Occurrence.name)
  describes {k : Nat} {o : Occurrence} {u : TypeUnit} (ho : occurrences[k]? = some o)
    (hu : units[k]? = some u) :
    u.Describes o.schema

theorem Made.cons {pool : Pool} {o : Occurrence} {u : TypeUnit} {occurrences : List Occurrence}
    {units : List TypeUnit} (hi : u.identifier = (pool.assign o.name).1.identifier)
    (hu : u.Describes o.schema) (h : Made (pool.assign o.name).2 occurrences units) :
    Made pool (o :: occurrences) (u :: units) := by
  refine ⟨?_, ?_, ?_⟩
  · rw [List.length_cons, List.length_cons, h.length]
  · rw [List.map_cons, List.map_cons, Pool.assignAll, hi, h.identifiers]
  · intro k o' u' ho' hu'
    cases k with
    | zero =>
      cases ho'
      cases hu'
      exact hu
    | succ k => exact h.describes ho' hu'

theorem Made.nodup {pool : Pool} {occurrences : List Occurrence} {units : List TypeUnit}
    (h : Made pool occurrences units) : (units.map TypeUnit.identifier).Nodup := by
  rw [h.identifiers]
  exact pool.nodup_assignAll _

section Append
variable {front : List Occurrence} (hf : ∀ o ∈ front, o.Accepted)
  (ho : ∀ o ∈ front, o.schema.isObject)
include hf ho

theorem ofOccurrences_append (pool : Pool) :
    ∃ units, Made pool front units ∧ ∀ back,
      (ofOccurrences pool (front ++ back)).result =
        (ofOccurrences (pool.after (front.map Occurrence.name)) back).result.map (units ++ ·) ∧
      (ofOccurrences pool (front ++ back)).seen =
        units ++ (ofOccurrences (pool.after (front.map Occurrence.name)) back).seen := by
  induction front generalizing pool with
  | nil =>
    refine ⟨[], ⟨rfl, rfl, fun hk _ => nomatch hk⟩, ?_⟩
    intro back
    exact ⟨(congrFun Except.map_id (ofOccurrences pool back).result).symm, rfl⟩
  | cons o front ih =>
    obtain ⟨s, hs⟩ := hf o List.mem_cons_self
    obtain ⟨units, hmade, hback⟩ := ih (fun o' h => hf o' (List.mem_cons_of_mem _ h))
      (fun o' h => ho o' (List.mem_cons_of_mem _ h)) (pool.assign o.name).2
    have hu :=
      TypeUnit.describes_ofSchema (ho o List.mem_cons_self) hs (pool.assign o.name).1.identifier
    refine ⟨TypeUnit.ofSchema (pool.assign o.name).1.identifier s :: units, .cons rfl hu hmade, ?_⟩
    intro back
    obtain ⟨hresult, hseen⟩ := hback back
    constructor
    · rw [List.cons_append, ofOccurrences, hs]
      simp only [hresult, List.map_cons, Pool.after]
      cases (ofOccurrences _ back).result <;> rfl
    · rw [List.cons_append, ofOccurrences, hs]
      simp only [seen, List.filterMap_cons] at hseen ⊢
      rw [hseen]
      rfl

theorem ofOccurrences_accepted (pool : Pool) :
    ∃ units, (ofOccurrences pool front).result = .ok units ∧
    (ofOccurrences pool front).seen = units ∧
      Made pool front units := by
  obtain ⟨units, hmade, hback⟩ := ofOccurrences_append hf ho pool
  obtain ⟨hresult, hseen⟩ := hback []
  rw [List.append_nil] at hresult hseen
  refine ⟨units, ?_, ?_, hmade⟩
  · simpa [ofOccurrences, Except.map] using hresult
  · simpa [ofOccurrences, seen] using hseen

theorem ofOccurrences_refused {o : Occurrence} {e : SchemaError}
    (he : Schema.ofJson o.schema = .error e) (back : List Occurrence) (pool : Pool) :
    (ofOccurrences pool (front ++ o :: back)).result = .error e ∧
      Made pool front (ofOccurrences pool (front ++ o :: back)).seen := by
  obtain ⟨units, hmade, hback⟩ := ofOccurrences_append hf ho pool
  obtain ⟨hresult, hseen⟩ := hback (o :: back)
  rw [ofOccurrences, he] at hresult hseen
  constructor
  · simpa [Except.map] using hresult
  · have hunits : (ofOccurrences pool (front ++ o :: back)).seen = units := by
      simpa [seen] using hseen
    rw [hunits]
    exact hmade

end Append

theorem accepted_of_result {pool : Pool} {occurrences : List Occurrence} {units : List TypeUnit}
    (h : (ofOccurrences pool occurrences).result = .ok units) : ∀ o ∈ occurrences, o.Accepted := by
  induction occurrences generalizing pool units with
  | nil => simp
  | cons o occurrences ih =>
    obtain ⟨s, rest, hs, hr, rfl⟩ := ofOccurrences_cons h
    intro o' ho'
    rcases List.mem_cons.mp ho' with rfl | ho'
    · exact ⟨s, hs⟩
    · exact ih hr o' ho'

theorem isObject_of_mem_placed {kind : CatalogKind} {catalog : List Json}
    {p : Occurrence.Place × Occurrence} (h : p ∈ Occurrence.placed kind catalog) :
    p.2.schema.isObject := by
  obtain ⟨place, o⟩ := p
  cases Occurrence.mem_placed.mp h with
  | configuration _ _ _ _ _ _ ho => exact ho
  | topLevel _ _ ho => exact ho

/-- The schemas of a catalog, in the order of their places, become one unit each if all of them are
accepted. Otherwise the walk fails as the first one that is refused, and has made the units of those
before it. No identifier is given twice. -/
theorem units_of_places (kind : CatalogKind) (catalog : List Json) :
    ∃ placed : List (Occurrence.Place × Occurrence),
      placed.Pairwise Occurrence.Earlier ∧
      (∀ place o, (place, o) ∈ placed ↔ Occurrence.At kind catalog place o) ∧
      ((∀ p ∈ placed, p.2.Accepted) → ∃ units,
        (ofCatalog kind catalog).result = .ok units ∧ (ofCatalog kind catalog).seen = units ∧
          Made .empty (placed.map Prod.snd) units ∧ (units.map TypeUnit.identifier).Nodup) ∧
      ∀ front p back e, placed = front ++ p :: back → (∀ q ∈ front, q.2.Accepted) →
        Schema.ofJson p.2.schema = .error e →
        (ofCatalog kind catalog).result = .error e ∧
          Made .empty (front.map Prod.snd) (ofCatalog kind catalog).seen ∧
          ((ofCatalog kind catalog).seen.map TypeUnit.identifier).Nodup := by
  have hall := Occurrence.map_snd_placed kind catalog
  have hmap {ps : List (Occurrence.Place × Occurrence)} {P : Occurrence → Prop}
      (h : ∀ p ∈ ps, P p.2) :
      ∀ o ∈ ps.map Prod.snd, P o := by
    intro o ho
    obtain ⟨p, hp, rfl⟩ := List.mem_map.mp ho
    exact h p hp
  refine ⟨Occurrence.placed kind catalog, Occurrence.pairwise_placed kind catalog,
    fun _ _ => Occurrence.mem_placed, ?_, ?_⟩
  · intro haccepted
    obtain ⟨units, hresult, hseen, hmade⟩ :=
      ofOccurrences_accepted (hmap haccepted) (hmap fun _ => isObject_of_mem_placed) .empty
    rw [ofCatalog, ← hall]
    exact ⟨units, hresult, hseen, hmade, hmade.nodup⟩
  · intro front p back e hplaced haccepted he
    have hobject : ∀ q ∈ front, q.2.schema.isObject := by
      intro q hq
      exact isObject_of_mem_placed (hplaced ▸ List.mem_append_left _ hq)
    obtain ⟨hresult, hmade⟩ :=
      ofOccurrences_refused (hmap haccepted) (hmap hobject) he (back.map Prod.snd) .empty
    rw [ofCatalog, ← hall, hplaced, List.map_append, List.map_cons]
    exact ⟨hresult, hmade, hmade.nodup⟩

def mixedSections : List Json :=
  [.object [("name", .string "Hero"), ("schema", .object [("type", .string "string")])], .null,
    .object [("schema", .object [])]]

theorem units_of_places_mixed : ∃ units, (ofCatalog .sections mixedSections).result = .ok units ∧
    (units.map TypeUnit.identifier).Nodup := by
  obtain ⟨placed, _, hmem, haccepted, _⟩ := units_of_places .sections mixedSections
  have hall : ∀ p ∈ placed, p.2.Accepted := by
    rintro ⟨place, o⟩ hp
    cases (hmem place o).mp hp with
    | topLevel hi hschema hobject =>
      rcases List.mem_cons.mp (List.mem_of_getElem? hi) with rfl | hentry
      · cases hschema
        exact ⟨_, rfl⟩
      rcases List.mem_cons.mp hentry with rfl | hentry
      · cases hschema
      · cases List.mem_singleton.mp hentry
        cases hschema
        exact ⟨_, rfl⟩
  obtain ⟨units, hresult, _, _, hnodup⟩ := haccepted hall
  exact ⟨units, hresult, hnodup⟩

end Walk
end CatalogTypes
