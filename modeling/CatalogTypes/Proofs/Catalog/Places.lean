import Mathlib.Data.List.Basic
import CatalogTypes.Catalog.Walk

/-! # Places of schemas

A schema stands at a place of its catalog: at the positions of its record, its set and its
configuration, or at the position of its section. The occurrences of a catalog are what stands at
its places, in the order of the places, and nothing else.
-/
namespace CatalogTypes.Occurrence

/-- The positions that lead to an entry, the outermost first. -/
abbrev Place := List Nat

/-- A schema stands at a place, and what it is named after. Only objects have members, so every
entry on the way is one. -/
inductive At : CatalogKind → List Json → Place → Occurrence → Prop where
  | configuration {catalog sets configurations : List Json}
    {contentType set configuration schema : Json}
      {i j k : Nat} (hi : catalog[i]? = some contentType)
      (hsets : contentType.member? (text "configurationSchemaSets") = some (.array sets))
      (hj : sets[j]? = some set)
      (hconfigurations : set.member? (text "configurations") = some (.array configurations))
      (hk : configurations[k]? = some configuration)
      (hschema : configuration.member? (text "schema") = some schema) (hobject : schema.isObject) :
      At .contentTypes catalog [i, j, k]
        ⟨displayName contentType ++ displayName set ++ displayName configuration, schema⟩
  | topLevel {catalog : List Json} {entry schema : Json} {i : Nat} (hi : catalog[i]? = some entry)
      (hschema : entry.member? (text "schema") = some schema) (hobject : schema.isObject) :
      At .sections catalog [i] ⟨sectionName i entry, schema⟩

def Earlier {β : Type} (p q : Place × β) : Prop := p.1 < q.1

section Below
variable {α β : Type} {f : Nat → α → List (Place × β)} {entries : List α}

/-- What is placed in the entries of a list, below the position of each entry. -/
def below (f : Nat → α → List (Place × β)) : (first : Nat) → List α → List (Place × β)
  | _, [] => []
  | i, a :: rest => (f i a).map (fun p => (i :: p.1, p.2)) ++ below f (i + 1) rest

theorem mem_below {first : Nat} {place : Place} {b : β} :
    (place, b) ∈ below f first entries ↔
      ∃ i a rest, entries[i]? = some a ∧ place = (first + i) :: rest ∧
      (rest, b) ∈ f (first + i) a := by
  induction entries generalizing first with
  | nil => simp [below]
  | cons a entries ih =>
    rw [below, List.mem_append, ih]
    constructor
    · rintro (h | ⟨i, c, rest, hi, hp, hb⟩)
      · obtain ⟨⟨rest, b⟩, hb, he⟩ := List.mem_map.mp h
        cases he
        exact ⟨0, a, rest, rfl, rfl, hb⟩
      · rw [Nat.add_right_comm, Nat.add_assoc] at hp hb
        exact ⟨i + 1, c, rest, hi, hp, hb⟩
    · rintro ⟨i, c, rest, hi, rfl, hb⟩
      cases i with
      | zero =>
        cases hi
        exact .inl (List.mem_map.mpr ⟨(rest, b), hb, rfl⟩)
      | succ i =>
        rw [← Nat.add_assoc, Nat.add_right_comm] at hb ⊢
        exact .inr ⟨i, c, rest, hi, rfl, hb⟩

theorem pairwise_below (hf : ∀ i a, (f i a).Pairwise Earlier) (first : Nat) :
    (below f first entries).Pairwise Earlier := by
  induction entries generalizing first with
  | nil => exact .nil
  | cons a entries ih =>
    refine List.pairwise_append.mpr ⟨?_, ih (first + 1), ?_⟩
    · refine List.pairwise_map.mpr ((hf first a).imp ?_)
      intro p q hpq
      exact List.cons_lt_cons_iff.mpr (.inr ⟨rfl, hpq⟩)
    · rintro p hp ⟨place, b⟩ hq
      obtain ⟨_, _, rfl⟩ := List.mem_map.mp hp
      obtain ⟨i, _, _, _, rfl, _⟩ := mem_below.mp hq
      exact List.cons_lt_cons_iff.mpr (.inl (by omega))

theorem map_snd_below (first : Nat) :
    (below f first entries).map Prod.snd = (entries.zipIdx first).flatMap fun (a, i) =>
      (f i a).map Prod.snd := by
  induction entries generalizing first with
  | nil => rfl
  | cons a entries ih =>
    rw [below, List.map_append, ih, List.map_map, List.zipIdx_cons, List.flatMap_cons]
    rfl

theorem map_snd_below_of_same {g : α → List β} (hf : ∀ i a, (f i a).map Prod.snd = g a)
    (first : Nat) :
    (below f first entries).map Prod.snd = entries.flatMap g := by
  induction entries generalizing first with
  | nil => rfl
  | cons a entries ih =>
    rw [below, List.map_append, ih, List.map_map, List.flatMap_cons, ← hf first a]
    rfl

end Below

def entriesOf (name : Text) (record : Json) : List Json :=
  match record.member? name with
  | some (.array items) => items
  | _ => []

theorem getElem?_entriesOf {name : Text} {record entry : Json} {i : Nat} :
    (entriesOf name record)[i]? = some entry ↔
      ∃ items, record.member? name = some (.array items) ∧ items[i]? = some entry := by
  unfold entriesOf
  split
  next items h => simp [h]
  next h =>
    constructor
    · intro hn
      cases hn
    · rintro ⟨items, hm, _⟩
      exact absurd hm (h items)

theorem nested_eq (name : Text) (record : Json) :
    nested name record = (entriesOf name record).filter Json.isObject := by
  unfold nested entriesOf
  cases record.member? name with
  | none => rfl
  | some value => cases value <;> rfl

/-- Entries that are no objects hold nothing, so nothing is lost with them. -/
theorem flatMap_filter_isObject {β : Type} {g : Json → List β}
    (hg : ∀ a, a.isObject = false → g a = []) (items : List Json) :
    (items.filter Json.isObject).flatMap g = items.flatMap g := by
  induction items with
  | nil => rfl
  | cons a items ih =>
    cases ha : a.isObject with
    | true => rw [List.filter_cons_of_pos ha, List.flatMap_cons, List.flatMap_cons, ih]
    | false =>
      rw [List.filter_cons_of_neg (by simp [ha]), List.flatMap_cons, hg a ha, ih, List.nil_append]

theorem member?_of_not_isObject {a : Json} (h : a.isObject = false) (name : Text) :
    a.member? name = none := by
  cases a with
  | object members => cases h
  | _ => rfl

/-- The occurrence of an entry, if it has one, at the place of the entry itself. -/
def held (occurrence : Option Occurrence) : List (Place × Occurrence) :=
  occurrence.toList.map fun o => ([], o)

theorem mem_held {occurrence : Option Occurrence} {place : Place} {o : Occurrence} :
    (place, o) ∈ held occurrence ↔ place = [] ∧ occurrence = some o := by
  cases occurrence with
  | none => simp [held]
  | some other => simp [held, eq_comm]

theorem pairwise_held (occurrence : Option Occurrence) : (held occurrence).Pairwise Earlier := by
  cases occurrence with
  | none => exact .nil
  | some o => exact List.pairwise_singleton _ _

theorem map_snd_held (occurrence : Option Occurrence) :
    (held occurrence).map Prod.snd = occurrence.toList := by
  cases occurrence with
  | none => rfl
  | some o => rfl

theorem ofEntry?_eq_some_iff {name : Text} {entry : Json} {o : Occurrence} :
    ofEntry? name entry = some o ↔
      ∃ schema, entry.member? (text "schema") = some schema ∧ schema.isObject ∧
      ⟨name, schema⟩ = o := by
  simp only [and_assoc, ofEntry?, Option.map_eq_some_iff, Option.filter_eq_some_iff]

def ofConfiguration? (contentType set configuration : Json) : Option Occurrence :=
  ofEntry? (displayName contentType ++ displayName set ++ displayName configuration) configuration

def ofSection? (position : Nat) (entry : Json) : Option Occurrence :=
  ofEntry? (sectionName position entry) entry

def heldBySet (contentType set : Json) : List (Place × Occurrence) :=
  below (fun _ configuration => held (ofConfiguration? contentType set configuration)) 0
    (entriesOf (text "configurations") set)

def heldByContentType (contentType : Json) : List (Place × Occurrence) :=
  below (fun _ set => heldBySet contentType set) 0
    (entriesOf (text "configurationSchemaSets") contentType)

def placed : CatalogKind → List Json → List (Place × Occurrence)
  | .contentTypes, catalog => below (fun _ contentType => heldByContentType contentType) 0 catalog
  | .sections, catalog => below (fun i entry => held (ofSection? i entry)) 0 catalog

theorem mem_placed {kind : CatalogKind} {catalog : List Json} {place : Place} {o : Occurrence} :
    (place, o) ∈ placed kind catalog ↔ At kind catalog place o := by
  cases kind with
  | contentTypes =>
    simp only [placed, heldByContentType, heldBySet, mem_below, mem_held, ofConfiguration?,
      ofEntry?_eq_some_iff, getElem?_entriesOf, Nat.zero_add]
    constructor
    · rintro ⟨i, contentType, _, hi, rfl, j, set, _, ⟨sets, hsets, hj⟩, rfl, k, configuration, _,
        ⟨configurations, hconfigurations, hk⟩, rfl, rfl, schema, hschema, hobject, rfl⟩
      exact .configuration hi hsets hj hconfigurations hk hschema hobject
    · intro h
      cases h with
      | configuration hi hsets hj hconfigurations hk hschema hobject =>
        exact ⟨_, _, _, hi, rfl, _, _, _, ⟨_, hsets, hj⟩, rfl, _, _, _, ⟨_, hconfigurations, hk⟩,
          rfl, rfl, _, hschema,
          hobject, rfl⟩
  | sections =>
    simp only [placed, mem_below, mem_held, ofSection?, ofEntry?_eq_some_iff, Nat.zero_add]
    constructor
    · rintro ⟨i, entry, _, hi, rfl, rfl, schema, hschema, hobject, rfl⟩
      exact .topLevel hi hschema hobject
    · intro h
      cases h with
      | topLevel hi hschema hobject => exact ⟨_, _, _, hi, rfl, rfl, _, hschema, hobject, rfl⟩

theorem pairwise_placed (kind : CatalogKind) (catalog : List Json) :
    (placed kind catalog).Pairwise Earlier := by
  cases kind with
  | contentTypes =>
    refine pairwise_below ?_ 0
    intro _ contentType
    refine pairwise_below ?_ 0
    intro _ set
    exact pairwise_below (fun _ configuration => pairwise_held _) 0
  | sections => exact pairwise_below (fun i entry => pairwise_held _) 0

theorem map_snd_heldBySet (contentType set : Json) :
    (heldBySet contentType set).map Prod.snd =
      (nested (text "configurations") set).filterMap (ofConfiguration? contentType set) := by
  have hnone : ∀ a, a.isObject = false → (ofConfiguration? contentType set a).toList = [] := by
    intro a ha
    rw [ofConfiguration?, ofEntry?, member?_of_not_isObject ha]
    rfl
  rw [heldBySet, map_snd_below_of_same fun _ configuration =>
    map_snd_held (ofConfiguration? contentType set configuration), nested_eq,
      List.filterMap_eq_flatMap_toList, flatMap_filter_isObject hnone]

theorem map_snd_heldByContentType (contentType : Json) :
    (heldByContentType contentType).map Prod.snd =
      (nested (text "configurationSchemaSets") contentType).flatMap fun set =>
        (nested (text "configurations") set).filterMap (ofConfiguration? contentType set) := by
  rw [heldByContentType, map_snd_below_of_same fun _ set => map_snd_heldBySet contentType set,
    nested_eq, flatMap_filter_isObject]
  intro a ha
  rw [nested, member?_of_not_isObject ha]
  rfl

/-- The occurrences of a catalog are what stands at its places. -/
theorem map_snd_placed (kind : CatalogKind) (catalog : List Json) :
    (placed kind catalog).map Prod.snd = kind.occurrences catalog := by
  cases kind with
  | contentTypes =>
    have hnone : ∀ a, a.isObject = false →
        ((nested (text "configurationSchemaSets") a).flatMap fun set =>
          (nested (text "configurations") set).filterMap (ofConfiguration? a set)) = [] := by
      intro a ha
      rw [nested, member?_of_not_isObject ha]
      rfl
    rw [placed, map_snd_below_of_same fun _ contentType => map_snd_heldByContentType contentType]
    exact (flatMap_filter_isObject hnone catalog).symm
  | sections =>
    simp only [placed, map_snd_below, map_snd_held]
    exact (List.filterMap_eq_flatMap_toList _ _).symm

end CatalogTypes.Occurrence
