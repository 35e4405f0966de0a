import CatalogTypes.Proofs.Schema.Reading
import CatalogTypes.Proofs.TypeBox.Written

/-! # Shapes

The shape of a value is the expression that a reading of it can only become, told from the value
alone: what it declares itself to be, its choices, its items, its properties and which of them it
requires. Since an expression can be told from its text, two schemas become the same text just
when the values that they are read from have the same shape.
-/
namespace CatalogTypes

theorem Json.sizeOf_lt_of_lookup {members : List (Text × Json)} {name : Text} {value : Json}
    (h : members.lookup name = some value) : sizeOf value < sizeOf (Json.object members) := by
  obtain ⟨front, back, rfl, _⟩ := List.lookup_eq_some_iff.mp h
  have hm : (name, value) ∈ front ++ (name, value) :: back := by simp
  have hs := List.sizeOf_lt_of_mem hm
  simp only [Prod.mk.sizeOf_spec] at hs
  simp only [object.sizeOf_spec]
  omega

namespace TypeBox

def declaredKind (members : List (Text × Json)) : SchemaKind :=
  match members.lookup (text "type") with
  | some (.string name) => .ofName name
  | _ => .leaf .unknown

def isRequired (members : List (Text × Json)) (name : Text) : Bool :=
  match members.lookup (text "required") with
  | some (.array names) => names.any fun
    | .string other => other = name
    | _ => false
  | _ => false

/-- The expression that a value determines. -/
def shape : Json → Expr
  | .object members =>
    match declaredKind members with
    | .leaf kind => .ofLeaf kind
    | .string =>
      match members.lookup (text "enum") with
      | some (.array (choice :: choices)) => .union (choice :: choices)
      | _ => .string
    | .array =>
      match _ : members.lookup (text "items") with
      | some (.object inner) => .array (shape (.object inner))
      | _ => .array .any
    | .object =>
      match _ : members.lookup (text "properties") with
      | some (.object properties) =>
        .object (properties.attach.map fun p => (p.1.1, isRequired members p.1.1, shape p.1.2))
      | _ => .object []
  | _ => .any
termination_by raw => sizeOf raw
decreasing_by
  · exact Json.sizeOf_lt_of_lookup ‹_›
  · have hp := List.sizeOf_lt_of_mem p.2
    have ho := Json.sizeOf_lt_of_lookup ‹_›
    obtain ⟨⟨name, value⟩, _⟩ := p
    simp only [Prod.mk.sizeOf_spec, Json.object.sizeOf_spec] at hp ho ⊢
    omega

theorem shape_of_not_isObject {raw : Json} (h : raw.isObject = false) : shape raw = .any := by
  cases raw with
  | object members => cases h
  | null | bool | int | float | string | array =>
    unfold shape
    rfl

theorem shape_of_leaf {members : List (Text × Json)} {kind : LeafKind}
    (hk : declaredKind members = .leaf kind) : shape (.object members) = .ofLeaf kind := by
  simp [shape, hk]

theorem shape_of_items {members : List (Text × Json)} (hk : declaredKind members = .array) :
    shape (.object members) = .array ((Source.tree.items? members).elim .any shape) := by
  rw [shape, hk]
  simp only
  split
  next inner hi =>
    rw [Source.items?, hi]
    rfl
  next hn =>
    unfold Source.items?
    cases hi : members.lookup (text "items") with
    | none => rfl
    | some value =>
      cases value with
      | object inner => exact absurd hi (hn inner)
      | null | bool | int | float | string | array => rfl

theorem shape_of_properties {members : List (Text × Json)} (hk : declaredKind members = .object) :
    shape (.object members) =
      .object ((Source.tree.properties members).map fun p =>
        (p.1, isRequired members p.1, shape p.2)) := by
  rw [shape, hk]
  simp only
  unfold Source.properties
  split
  next properties hp =>
    rw [hp]
    exact congrArg Expr.object
      (List.attach_map_val (f := fun p : Text × Json => (p.1, isRequired members p.1, shape p.2)))
  next hn =>
    cases hp : members.lookup (text "properties") with
    | none => rfl
    | some value =>
      cases value with
      | object properties => exact absurd hp (hn properties)
      | null | bool | int | float | string | array => rfl

theorem kind_tree (members : List (Text × Json)) :
    Source.tree.kind members = declaredKind members := by
  unfold Source.kind declaredKind
  rcases members.lookup (text "type") with _ | value
  · rfl
  · cases value <;> rfl

theorem contains_required (members : List (Text × Json)) (name : Text) :
    (Source.tree.required members).contains name = isRequired members name := by
  have hnames (names : List Json) :
      (Text.sortedSet (names.filterMap Source.tree.text?)).contains name = names.any fun
        | .string other => other = name
        | _ => false := by
    rw [Bool.eq_iff_iff, List.contains_iff_mem, Text.mem_sortedSet, List.mem_filterMap,
      List.any_eq_true]
    apply exists_congr
    intro value
    apply and_congr_right
    intro _
    cases value <;> simp [Source.text?, Source.tree]
  unfold Source.required isRequired
  rcases members.lookup (text "required") with _ | value
  · rfl
  · cases value with
    | array names => exact hnames names
    | null | bool | int | float | string | object => rfl

theorem shape_of_choices {members : List (Text × Json)} (caption : Caption)
    (hk : declaredKind members = .string) :
    Expr.ofSchema (.string caption (Source.tree.choices members)) = shape (.object members) := by
  rw [shape, hk]
  unfold Source.choices
  rcases members.lookup (text "enum") with _ | value
  · rfl
  · cases value with
    | array values => cases values <;> rfl
    | null | bool | int | float | string | object => rfl

theorem shape_of_readProperties {inner : Json → Except SchemaError (Schema Json)}
    (hi : ∀ raw s, inner raw = .ok s → Expr.ofSchema s = shape raw) (members : List (Text × Json))
    {properties : List (Text × Json)} {ps : List (Text × Schema Json)}
    (h : Schema.readProperties inner properties = .ok ps) :
    Expr.ofProperties (Source.tree.required members) ps =
      properties.map fun p => (p.1, isRequired members p.1, shape p.2) := by
  induction properties generalizing ps with
  | nil => cases h; rfl
  | cons p rest ih =>
    obtain ⟨name, raw⟩ := p
    obtain ⟨s, others, hs, hr, rfl⟩ := Schema.readProperties_cons_eq_ok.mp h
    simp only [Expr.ofProperties, List.map_cons, contains_required, hi raw s hs, ih hr]

/-- What an object is read as has its shape, if that holds of what lies in it. -/
theorem shape_of_readMembers {inner : Json → Except SchemaError (Schema Json)}
    (hi : ∀ raw s, inner raw = .ok s → Expr.ofSchema s = shape raw) {members : List (Text × Json)}
    {s : Schema Json} (h : Schema.readMembers .tree inner members = .ok s) :
    Expr.ofSchema s = shape (.object members) := by
  cases Schema.formed_of_readMembers h with
  | leaf hk =>
    rw [kind_tree] at hk
    rw [shape_of_leaf hk, Expr.ofSchema]
  | string hk =>
    rw [kind_tree] at hk
    exact shape_of_choices _ hk
  | arrayOfAny hk hitems =>
    rw [kind_tree] at hk
    rw [shape_of_items hk, hitems, Expr.ofSchema]
    rfl
  | array hk hitems hs =>
    rw [kind_tree] at hk
    rw [shape_of_items hk, hitems, Expr.ofSchema, hi _ _ hs]
    rfl
  | object hk hps =>
    rw [kind_tree] at hk
    rw [Expr.ofSchema, shape_of_readProperties hi members hps, shape_of_properties hk]

theorem shape_of_readAt {limit : Int} {room depth : Nat} {enclosing : List Nat} {raw : Json}
    {s : Schema Json} (h : Schema.readAt .tree limit room depth enclosing raw = .ok s) :
    Expr.ofSchema s = shape raw := by
  induction room using Nat.strongRecOn generalizing depth enclosing raw s with
  | ind room ih =>
    cases raw with
    | object members =>
      obtain ⟨_, less, rfl, hs⟩ := Schema.readAt_ok_members rfl h
      exact shape_of_readMembers (fun _ _ => ih less (by omega)) hs
    | null | bool | int | float | string | array =>
      rw [Schema.readAt_of_not_isObject rfl] at h
      cases h
      exact (shape_of_not_isObject rfl).symm

/-- Two schemas become the same text, at any one indentation, just when they were read from values
of the same shape. Neither the limits they were read under nor anything that their shapes leave
out makes a difference. -/
theorem ofSchema_eq_iff_shape_eq {r₁ r₂ : Json} {limit₁ limit₂ : Int} {s₁ s₂ : Schema Json}
    (h₁ : Schema.read .tree limit₁ r₁ = .ok s₁) (h₂ : Schema.read .tree limit₂ r₂ = .ok s₂)
    (hf₁ : (shape r₁).FloatFree) (hf₂ : (shape r₂).FloatFree) (indent : Text) :
    ofSchema indent s₁ = ofSchema indent s₂ ↔ shape r₁ = shape r₂ := by
  have hs₁ : Expr.ofSchema s₁ = shape r₁ := shape_of_readAt h₁
  have hs₂ : Expr.ofSchema s₂ = shape r₂ := shape_of_readAt h₂
  rw [ofSchema, ofSchema, hs₁, hs₂]
  constructor
  · intro h
    exact (Expr.render_append_inj hf₁ hf₂ (congrArg (· ++ []) h)).1
  · intro h
    rw [h]

def oneChoice (choice : Json) : Json :=
  .object [("type", .string "string"), ("enum", .array [choice])]
def titledChoice (choice : Json) : Json :=
  .object [("title", .string "Size"), ("enum", .array [choice]), ("type", .string "string")]

theorem ofSchema_eq_iff_shape_eq_choices :
    ofSchema "  " (.string .empty [.int 1]) = ofSchema "  " (.string ⟨text "Size", none⟩ [.int 1]) ∧
      ofSchema "  " (.string .empty [.bool true]) ≠
        ofSchema "  " (.string ⟨text "Size", none⟩ [.int 1]) := by
  have hi : Schema.read .tree 64 (oneChoice (.int 1)) = .ok (.string .empty [.int 1]) := rfl
  have hb : Schema.read .tree 64 (oneChoice (.bool true)) = .ok (.string .empty [.bool true]) := rfl
  have ht : Schema.read .tree 64 (titledChoice (.int 1)) =
      .ok (.string ⟨text "Size", none⟩ [.int 1]) := rfl
  have hf {choice : Json} (h : choice.FloatFree) : (Expr.union [choice]).FloatFree :=
    .union fun v hv => List.mem_singleton.mp hv ▸ h
  have hsi := shape_of_readAt hi
  have hsb := shape_of_readAt hb
  have hst := shape_of_readAt ht
  constructor
  · exact (ofSchema_eq_iff_shape_eq hi ht (hsi ▸ hf (.int 1)) (hst ▸ hf (.int 1)) _).mpr
      (hsi.symm.trans hst)
  · intro h
    have hs := (ofSchema_eq_iff_shape_eq hb ht (hsb ▸ hf (.bool true)) (hst ▸ hf (.int 1)) _).mp h
    rw [← hsb, ← hst] at hs
    cases hs

end TypeBox
end CatalogTypes
