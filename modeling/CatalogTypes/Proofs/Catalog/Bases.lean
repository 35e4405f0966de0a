import CatalogTypes.Proofs.Catalog.Units
import CatalogTypes.Proofs.Identifier.Strip

/-! # The bases of joined names

A configuration is named after its content type, its set and itself. Joining the three names
first makes no difference to what is left of them, so the base of its identifier is joined of
what each name leaves.
-/
namespace CatalogTypes
open Identifier

namespace Occurrence

/-- A schema of a catalog of content types, with the records that it is named after. -/
structure Configuration where
  contentType : Json
  set : Json
  entry : Json
  schema : Json

namespace Configuration

/-- The records of a configuration stand at its positions, each within the one before. -/
structure Stands (c : Configuration) (catalog : List Json) (i j k : Nat) : Prop where
  contentType : catalog[i]? = some c.contentType
  set : (entriesOf (text "configurationSchemaSets") c.contentType)[j]? = some c.set
  entry : (entriesOf (text "configurations") c.set)[k]? = some c.entry
  schema : c.entry.member? (text "schema") = some c.schema

def name (c : Configuration) : Text :=
  displayName c.contentType ++ displayName c.set ++ displayName c.entry

def left (c : Configuration) : Text :=
  strip (displayName c.contentType) ++ strip (displayName c.set) ++ strip (displayName c.entry)

theorem strip_name (c : Configuration) : strip c.name = c.left := by
  rw [name, left, strip_append, strip_append]

end Configuration

theorem At.configuration? {catalog : List Json} {place : Place} {o : Occurrence}
    (h : At .contentTypes catalog place o) :
    ∃ (c : Configuration) (i j k : Nat), place = [i, j, k] ∧ c.Stands catalog i j k ∧
    o = ⟨c.name, c.schema⟩ := by
  cases h with
  | configuration hi hsets hj hconfigurations hk hschema _ =>
    exact ⟨⟨_, _, _, _⟩, _, _, _, rfl,
      ⟨hi, getElem?_entriesOf.mpr ⟨_, hsets, hj⟩, getElem?_entriesOf.mpr ⟨_, hconfigurations, hk⟩,
        hschema⟩, rfl⟩

end Occurrence

namespace Walk
open Occurrence

def assigned (w : Walk) : List Pool.Assignment :=
  w.events.filterMap fun
    | .assignment a => some a
    | .unit _ => none

theorem isObject_of_mem_occurrences {kind : CatalogKind} {catalog : List Json} {o : Occurrence}
    (h : o ∈ kind.occurrences catalog) : o.schema.isObject := by
  rw [← map_snd_placed] at h
  obtain ⟨p, hp, rfl⟩ := List.mem_map.mp h
  exact isObject_of_mem_placed hp

/-- A unit is made of the occurrence at its position, under the identifier handed out there. -/
theorem made_of_seen {occurrences : List Occurrence} (ho : ∀ o ∈ occurrences, o.schema.isObject)
    {pool : Pool} {n : Nat} {u : TypeUnit}
    (h : (ofOccurrences pool occurrences).seen[n]? = some u) :
    ∃ o a, occurrences[n]? = some o ∧ (ofOccurrences pool occurrences).assigned[n]? = some a ∧
      a.base = ofName o.name ∧ a.identifier = u.identifier ∧ u.Describes o.schema := by
  induction occurrences generalizing pool n with
  | nil => cases h
  | cons o occurrences ih =>
    cases hs : Schema.ofJson o.schema with
    | error e =>
      rw [ofOccurrences, hs] at h
      cases h
    | ok s =>
      rw [ofOccurrences, hs] at h ⊢
      cases n with
      | zero =>
        cases h
        exact ⟨o, (pool.assign o.name).1, rfl, rfl, rfl, rfl,
          TypeUnit.describes_ofSchema (ho o List.mem_cons_self) hs _⟩
      | succ n => exact ih (fun o' h' => ho o' (List.mem_cons_of_mem o h')) h

/-- What is left of a joined name is joined of what its parts leave, and marks leave nothing,
wherever they are put in. So the base of the identifier of a configuration is joined of what the
names of its records leave. -/
theorem bases_joined :
    (∀ s t : Text, strip (s ++ t) = strip s ++ strip t) ∧
    (∀ s t : Text, Marked s t → strip t = strip s ∧ ofName t = ofName s) ∧
    ∀ (catalog : List Json) (n : Nat) (u : TypeUnit), (ofCatalog .contentTypes catalog).seen[n]? =
      some u →
      ∃ (c : Configuration) (i j k : Nat) (a : Pool.Assignment),
        (placed .contentTypes catalog)[n]? = some ([i, j, k], ⟨c.name, c.schema⟩) ∧
          c.Stands catalog i j k ∧
        u.Describes c.schema ∧ (ofCatalog .contentTypes catalog).assigned[n]? = some a ∧
        a.identifier = u.identifier ∧ Base c.left a.base := by
  refine ⟨strip_append, fun s t h => ⟨h.strip_eq, by rw [ofName, h.strip_eq, ofName]⟩,
    fun catalog n u hu => ?_⟩
  obtain ⟨o, a, ho, ha, hbase, hidentifier, hdescribes⟩ :=
    made_of_seen (fun _ => isObject_of_mem_occurrences) hu
  rw [← map_snd_placed, List.getElem?_map] at ho
  obtain ⟨⟨place, _⟩, hplaced, rfl⟩ := Option.map_eq_some_iff.mp ho
  obtain ⟨c, i, j, k, rfl, hc, rfl⟩ := (mem_placed.mp (List.mem_of_getElem? hplaced)).configuration?
  refine ⟨c, i, j, k, a, hplaced, hc, hdescribes, ha, hidentifier, ?_⟩
  rw [hbase, ofName, c.strip_name]
  exact base_ofStripped c.left

def accentedCatalog : List Json :=
  [.object [("name", .string ("1Pa" ++ 0x301 :: text "gina")), ("configurationSchemaSets", .array
    [.object [("name", .string "2Set"), ("configurations", .array
      [.object [("name", .string "3Config"), ("schema", .object [])]])]])]]

theorem bases_joined_accented :
    ∃ a, (ofCatalog .contentTypes accentedCatalog).assigned[0]? = some a ∧
    a.base = text "T1Pagina2Set3Config" := by
  obtain ⟨_, hmarked, hbase⟩ := bases_joined
  obtain ⟨c, i, j, k, a, _, hc, _, ha, _, hbase⟩ := hbase accentedCatalog 0 _ rfl
  refine ⟨a, ha, ?_⟩
  have hleft : c.left = text "1Pagina2Set3Config" := by
    obtain ⟨contentType, set, entry, schema⟩ := c
    obtain ⟨hcontentType, hset, hentry, _⟩ := hc
    cases List.mem_singleton.mp (List.mem_of_getElem? hcontentType)
    cases List.mem_singleton.mp (List.mem_of_getElem? hset)
    cases List.mem_singleton.mp (List.mem_of_getElem? hentry)
    have haccent : Marked (text "1Pagina") ("1Pa" ++ 0x301 :: text "gina") :=
      .keep _ (.keep _ (.keep _ (.mark (by decide +kernel)
        (.keep _ (.keep _ (.keep _ (.keep _ .nil)))))))
    have hplain {t : Text} (ht : t.all (·.isAlphanumeric)) : strip t = t :=
      strip_of_isAlphanumeric (List.all_eq_true.mp ht)
    change strip ("1Pa" ++ 0x301 :: text "gina") ++ strip (text "2Set") ++
      strip (text "3Config") = _
    rw [(hmarked _ _ haccent).1, hplain (by rfl), hplain (by rfl), hplain (by rfl)]
    rfl
  rw [hleft] at hbase
  exact hbase.marked.mpr ⟨'1', rfl, by decide⟩

end Walk
end CatalogTypes
