import Mathlib.Data.List.Basic
import CatalogTypes.Proofs.Json.Keyed
import CatalogTypes.Proofs.Schema.Part
import CatalogTypes.Proofs.TypeBox.Keys
import CatalogTypes.Proofs.TypeBox.Shape

/-! # What a schema represents

Each schema in a schema that was read stands for one value in the value that it was read from, and
has what that value says in the keywords of its kind and nothing else. None lies deeper than one
step below the limit, and there only what is no object can lie.
-/
namespace CatalogTypes

namespace Json

def items : Json → List Json
  | .array items => items
  | _ => []

/-- What an object says by a keyword. It is null where nothing is said. -/
def keyword (raw : Json) (name : Text) : Json := (raw.member? name).getD .null

theorem keyword_object (members : List (Text × Json)) (name : Text) :
    (object members).keyword name = (members.lookup name).getD .null := rfl

theorem Keyed.keyword {raw : Json} (h : raw.Keyed) (name : Text) : (raw.keyword name).Keyed := by
  unfold Json.keyword
  cases hv : raw.member? name with
  | none => exact .null
  | some v => exact h.of_member? hv

def schemaPart? (raw : Json) : Schema.Step → Option Json
  | .items => raw.member? "items"
  | .property position => (raw.keyword "properties").members[position]?.map Prod.snd

theorem Keyed.schemaPart? {raw v : Json} (h : raw.Keyed) {step : Schema.Step}
    (hv : raw.schemaPart? step = some v) :
    v.Keyed := by
  cases step with
  | items => exact h.of_member? hv
  | property position =>
    obtain ⟨p, hp, rfl⟩ := Option.map_eq_some_iff.mp hv
    exact (h.keyword "properties").of_mem_members (List.mem_of_getElem? hp)

def schemaAt? (raw : Json) (path : List Schema.Step) : Option Json := path.foldlM schemaPart? raw

end Json

namespace Schema
open Source

/-- A schema has what a value says in the keywords of the kind that it declares, and nothing of what
the other kinds of schema have. -/
structure Represents (raw : Json) (s : Schema Json) : Prop where
  kind : s.kind = TypeBox.declaredKind raw.members
  choices : s.choices = if s.kind = .string then (raw.keyword "enum").items else []
  items : s.items?.isSome ↔ s.kind = .array ∧ (raw.keyword "items").isObject
  names : s.properties.map Prod.fst =
    if s.kind = .object then (raw.keyword "properties").members.map Prod.fst else []
  distinct : (s.properties.map Prod.fst).Nodup
  required (name : Text) : name ∈ s.required ↔ s.kind = .object ∧
    .string name ∈ (raw.keyword "required").items

section Keywords
variable {members : List (Text × Json)} {name : Text}

theorem choices_tree : tree.choices members = ((Json.object members).keyword "enum").items := by
  rw [Source.choices, Json.keyword_object]
  rcases members.lookup (text "enum") with _ | value
  · rfl
  · cases value <;> rfl

theorem properties_tree : tree.properties members =
    ((Json.object members).keyword "properties").members := by
  rw [Source.properties, Json.keyword_object]
  rcases members.lookup (text "properties") with _ | value
  · rfl
  · cases value <;> rfl

theorem isSome_items?_tree : (tree.items? members).isSome =
    ((Json.object members).keyword "items").isObject := by
  rw [Source.items?, Json.keyword_object]
  rcases members.lookup (text "items") with _ | value
  · rfl
  · cases value <;> rfl

theorem isObject_tree (v : Json) : tree.isObject v = v.isObject := by
  cases v <;> rfl

theorem text?_tree_eq_some {v : Json} : tree.text? v = some name ↔ v = .string name := by
  cases v <;> simp [Source.text?, tree]

theorem mem_required_tree :
    name ∈ tree.required members ↔
    .string name ∈ ((Json.object members).keyword "required").items := by
  have hstrings (names : List Json) :
      name ∈ Text.sortedSet (names.filterMap tree.text?) ↔ .string name ∈ names := by
    simp only [Text.mem_sortedSet, List.mem_filterMap, text?_tree_eq_some, exists_eq_right]
  rw [Source.required, Json.keyword_object]
  rcases members.lookup (text "required") with _ | value
  · exact iff_of_false List.not_mem_nil List.not_mem_nil
  · cases value with
    | array names => exact hstrings names
    | null | bool | int | float | string | object =>
      exact iff_of_false List.not_mem_nil List.not_mem_nil

end Keywords

section Reading
variable {inner : Json → Except SchemaError (Schema Json)} {members : List (Text × Json)}
  {s t : Schema Json}

/-- Only the schemas of objects have properties and required names. -/
theorem represents_of_kind_ne_object {raw : Json} (hk : s.kind = TypeBox.declaredKind raw.members)
    (hne : s.kind ≠ .object)
    (hc : s.choices = if s.kind = .string then (raw.keyword "enum").items else [])
    (hi : s.items?.isSome ↔ s.kind = .array ∧ (raw.keyword "items").isObject) :
    Represents raw s := by
  cases s with
  | object => exact absurd rfl hne
  | leaf | string | array =>
    exact ⟨hk, hc, hi, rfl, List.nodup_nil, fun _ => iff_of_false List.not_mem_nil nofun⟩

theorem represents_anything {raw : Json} (h : raw.isObject = false) : Represents raw anything := by
  have hnone : raw.members = [] := by
    cases raw with
    | object => cases h
    | null | bool | int | float | string | array => rfl
  have hk : (anything : Schema Json).kind = TypeBox.declaredKind raw.members := by
    rw [hnone]
    rfl
  exact represents_of_kind_ne_object hk nofun rfl (iff_of_false nofun nofun)

/-- Whatever lies in an object, what the object itself is read as represents it. -/
theorem represents_of_readMembers (hraw : (Json.object members).Keyed)
    (h : readMembers tree inner members = .ok s) : Represents (.object members) s := by
  cases formed_of_readMembers h with
  | leaf hk =>
    rw [TypeBox.kind_tree] at hk
    exact represents_of_kind_ne_object hk.symm nofun rfl (iff_of_false nofun nofun)
  | string hk =>
    rw [TypeBox.kind_tree] at hk
    exact represents_of_kind_ne_object hk.symm nofun choices_tree (iff_of_false nofun nofun)
  | arrayOfAny hk hi =>
    rw [TypeBox.kind_tree] at hk
    refine represents_of_kind_ne_object hk.symm nofun rfl ?_
    rw [← isSome_items?_tree, hi]
    exact iff_of_false nofun nofun
  | array hk hi hitems =>
    rw [TypeBox.kind_tree] at hk
    refine represents_of_kind_ne_object hk.symm nofun rfl ?_
    rw [← isSome_items?_tree, hi]
    exact iff_of_true rfl ⟨rfl, rfl⟩
  | @object ps hk hps =>
    rw [TypeBox.kind_tree] at hk
    have hnames : ps.map Prod.fst =
        ((Json.object members).keyword "properties").members.map Prod.fst := by
      rw [TypeBox.names_of_readProperties hps, properties_tree]
    have hdistinct : (ps.map Prod.fst).Nodup := by
      rw [hnames]
      exact (hraw.keyword "properties").nodup_names
    refine ⟨hk.symm, rfl, iff_of_false nofun nofun, hnames, hdistinct, fun name => ?_⟩
    rw [Schema.required, mem_required_tree]
    exact ⟨fun h => ⟨rfl, h⟩, And.right⟩

theorem getElem?_of_readProperties {properties : List (Text × Json)}
    {ps : List (Text × Schema Json)} (h : readProperties inner properties = .ok ps) {position : Nat}
    {p : Text × Schema Json} (hp : ps[position]? = some p) :
    ∃ v, properties[position]? = some (p.1, v) ∧ inner v = .ok p.2 := by
  induction properties generalizing ps position with
  | nil =>
    cases h
    cases hp
  | cons property rest ih =>
    obtain ⟨s, others, hs, ho, rfl⟩ := readProperties_cons_eq_ok.mp h
    cases position with
    | zero =>
      cases hp
      exact ⟨property.2, rfl, hs⟩
    | succ position => exact ih ho hp

/-- Each part of an object's schema is what the part of the object is read as. -/
theorem part?_of_readMembers (h : readMembers tree inner members = .ok s) {step : Step}
    (ht : s.part? step = some t) :
    ∃ v, (Json.object members).schemaPart? step = some v ∧ inner v = .ok t ∧
    (step = .items → v.isObject) := by
  cases formed_of_readMembers h with
  | leaf hk | string hk | arrayOfAny hk hi =>
    cases step with
    | items => cases ht
    | property position => cases ht
  | @array v items hk hi hitems =>
    obtain ⟨hlookup, hobject⟩ := Option.filter_eq_some_iff.mp hi
    cases step with
    | items =>
      cases ht
      exact ⟨v, hlookup, hitems, fun _ => by rwa [isObject_tree] at hobject⟩
    | property position => cases ht
  | object hk hps =>
    cases step with
    | items => cases ht
    | property position =>
      obtain ⟨p, hp, rfl⟩ := Option.map_eq_some_iff.mp ht
      obtain ⟨v, hv, hinner⟩ := getElem?_of_readProperties hps hp
      rw [properties_tree] at hv
      exact ⟨v, Option.map_eq_some_iff.mpr ⟨_, hv, rfl⟩, hinner, nofun⟩

theorem part?_anything (step : Step) : (anything : Schema Json).part? step = none := by
  cases step <;> rfl

section Depth
variable {limit : Int} {room depth : Nat} {enclosing : List Nat} {raw : Json} {path : List Step}

theorem represents_of_readAt (hraw : raw.Keyed)
    (h : readAt tree limit room depth enclosing raw = .ok s) :
    Represents raw s ∧ (room = 0 → raw.isObject = false) := by
  cases raw with
  | object members =>
    obtain ⟨_, less, rfl, hm⟩ := readAt_ok_members rfl h
    exact ⟨represents_of_readMembers hraw hm, nofun⟩
  | null | bool | int | float | string | array =>
    rw [readAt_of_not_isObject rfl] at h
    cases h
    exact ⟨represents_anything rfl, fun _ => rfl⟩

theorem part?_of_readAt (h : readAt tree limit room depth enclosing raw = .ok s) {step : Step}
    (ht : s.part? step = some t) : ∃ less deeper enclosing' v, room = less + 1 ∧
    raw.schemaPart? step = some v ∧
      readAt tree limit less deeper enclosing' v = .ok t ∧ (step = .items → v.isObject) := by
  cases raw with
  | object members =>
    obtain ⟨_, less, rfl, hm⟩ := readAt_ok_members rfl h
    obtain ⟨v, hv, hread, hobject⟩ := part?_of_readMembers hm ht
    exact ⟨less, _, _, v, rfl, hv, hread, hobject⟩
  | null | bool | int | float | string | array =>
    rw [readAt_of_not_isObject rfl] at h
    cases h
    rw [part?_anything] at ht
    cases ht

/-- What a path leads to is read in the room that the path leaves. If it leaves none, then the path
ends at a value that is no object, and so not at the items of an array. -/
theorem represented_of_readAt (hraw : raw.Keyed)
    (h : readAt tree limit room depth enclosing raw = .ok s) (ht : s.at? path = some t) :
    ∃ v, raw.schemaAt? path = some v ∧ Represents v t ∧ path.length ≤ room ∧
      (path.length = room → v.isObject = false ∧ path.getLast? ≠ some .items) := by
  induction path generalizing room depth enclosing raw s with
  | nil =>
    cases ht
    obtain ⟨hs, hroom⟩ := represents_of_readAt hraw h
    exact ⟨raw, rfl, hs, Nat.zero_le room, fun hr => ⟨hroom hr.symm, nofun⟩⟩
  | cons step path ih =>
    obtain ⟨child, hchild, ht⟩ := Option.bind_eq_some_iff.mp ht
    obtain ⟨less, _, _, v, rfl, hv, hread, hobject⟩ := part?_of_readAt h hchild
    obtain ⟨u, hu, hrep, hlength, hdeepest⟩ := ih (hraw.schemaPart? hv) hread ht
    refine ⟨u, Option.bind_eq_some_iff.mpr ⟨v, hv, hu⟩, hrep, Nat.succ_le_succ hlength,
      fun hlast => ?_⟩
    obtain ⟨hleaf, hends⟩ := hdeepest (Nat.succ.inj hlast)
    refine ⟨hleaf, ?_⟩
    cases path with
    | nil =>
      cases hu
      rintro hstep
      cases hstep
      exact Bool.false_ne_true (hleaf.symm.trans (hobject rfl))
    | cons next rest => rwa [List.getLast?_cons_cons]

end Depth

end Reading

/-- Every schema in a schema that was read represents the value that its path leads to in the value
that was read: it has the kind that the value declares, what the keywords of that kind say, and
nothing else. It lies at most one step deeper than the limit, and there only as the schema of a
property that is no object. -/
theorem represented_exact {raw : Json} {limit : Nat} {s t : Schema Json} {path : List Step}
    (hraw : raw.Keyed) (h : read tree limit raw = .ok s) (ht : s.at? path = some t) :
    ∃ v, raw.schemaAt? path = some v ∧ Represents v t ∧ path.length ≤ limit + 1 ∧
      (path.length = limit + 1 → v.isObject = false ∧ ∃ above position, path = above ++
        [.property position]) := by
  obtain ⟨v, hv, hrep, hlength, hdeepest⟩ := represented_of_readAt hraw h ht
  refine ⟨v, hv, hrep, hlength, fun hlast => ?_⟩
  obtain ⟨hleaf, hends⟩ := hdeepest hlast
  refine ⟨hleaf, ?_⟩
  cases hstep : path.getLast? with
  | none =>
    rw [List.getLast?_eq_none_iff.mp hstep] at hlast
    cases hlast
  | some step =>
    obtain ⟨above, rfl⟩ := List.getLast?_eq_some_iff.mp hstep
    cases step with
    | items => exact absurd hstep hends
    | property position => exact ⟨above, position, rfl⟩

def flatObject : Json :=
  .object [("type", .string "object"), ("properties", .object [("a", .int 5), ("b", .bool true)]),
    ("required", .array [.string "b", .int 1, .string "c", .string "b"])]

theorem decode_flatObject : Json.decode (text
    "\x7b\"type\":\"object\",\"properties\":\x7b\"a\":5,\"b\":true\x7d,\"required\":[\"b\",1,\"c\",\"b\"]\x7d") =
      .ok flatObject := by
  cbv

def flatSchema : Schema Json := .object .empty [("a", anything), ("b", anything)] ["b", "c"]

theorem represented_exact_flatObject : read tree (0 : Nat) flatObject = .ok flatSchema ∧
    Represents flatObject flatSchema ∧ flatSchema.at? [.property 1] = some anything ∧
    flatObject.schemaAt? [.property 1] = some (.bool true) ∧ Represents (.bool true) anything := by
  have hkeyed : flatObject.Keyed := Json.keyed_of_decode decode_flatObject
  have hread : read tree (0 : Nat) flatObject = .ok flatSchema := rfl
  have hroot : flatSchema.at? [] = some flatSchema := rfl
  have hpart : flatSchema.at? [.property 1] = some anything := rfl
  have hvalue : flatObject.schemaAt? [.property 1] = some (.bool true) := rfl
  obtain ⟨_, hv, hobject, _⟩ := represented_exact hkeyed hread hroot
  cases hv
  obtain ⟨_, hw, hleaf, _⟩ := represented_exact hkeyed hread hpart
  cases hvalue.symm.trans hw
  exact ⟨hread, hobject, hpart, hvalue, hleaf⟩

end Schema
end CatalogTypes
