import CatalogTypes.Catalog.Walk
import CatalogTypes.Proofs.Identifier.Pool
import CatalogTypes.Proofs.Results

/-! # The units of a walk

A walk that is not refused makes one unit after the other, each under an identifier that its pool
held back until then.
-/
namespace CatalogTypes.Walk
open Identifier

variable {pool : Pool} {occurrences : List Occurrence} {units : List TypeUnit}

/-- A walk begins with the unit of its first occurrence, and goes on with a larger pool. -/
theorem ofOccurrences_cons {o : Occurrence}
    (h : (ofOccurrences pool (o :: occurrences)).result = .ok units) :
    ∃ s rest, Schema.ofJson o.schema = .ok s ∧
      (ofOccurrences ⟨pool.fresh (ofName o.name) :: pool.taken⟩ occurrences).result = .ok rest ∧
      units = TypeUnit.ofSchema (pool.fresh (ofName o.name)) s :: rest := by
  simp only [ofOccurrences, Pool.assign] at h
  cases hs : Schema.ofJson o.schema with
  | error e =>
    rw [hs] at h
    cases h
  | ok s =>
    rw [hs] at h
    obtain ⟨rest, hr, he⟩ := map_eq_ok.mp h
    exact ⟨s, rest, rfl, hr, he.symm⟩

theorem wellFormed_identifier (h : (ofOccurrences pool occurrences).result = .ok units) :
    ∀ u ∈ units, WellFormed u.identifier := by
  induction occurrences generalizing pool units with
  | nil => cases h; simp
  | cons o occurrences ih =>
    obtain ⟨s, rest, _, hr, rfl⟩ := ofOccurrences_cons h
    intro u hu
    rcases List.mem_cons.mp hu with rfl | hu
    · exact pool.wellFormed_fresh (wellFormed_ofName o.name)
    · exact ih hr u hu

/-- The identifiers of the units are those that the pool gives to the names, in turn. -/
theorem identifiers_eq (h : (ofOccurrences pool occurrences).result = .ok units) :
    units.map TypeUnit.identifier = pool.assignAll (occurrences.map Occurrence.name) := by
  induction occurrences generalizing pool units with
  | nil =>
    cases h
    rfl
  | cons o occurrences ih =>
    obtain ⟨s, rest, _, hr, rfl⟩ := ofOccurrences_cons h
    rw [List.map_cons, ih hr]
    rfl

theorem nodup_identifiers (h : (ofOccurrences pool occurrences).result = .ok units) :
    (units.map TypeUnit.identifier).Nodup := by
  rw [identifiers_eq h]
  exact pool.nodup_assignAll _

end CatalogTypes.Walk
