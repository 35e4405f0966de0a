import CatalogTypes.Proofs.Schema.Reading
import CatalogTypes.Proofs.Text.Bytes
import CatalogTypes.Proofs.TypeBox.Written

/-! # Types that have bytes

A type is made of the names and choices of the value that it is read from, so it has bytes if all
strings of the value do.
-/
namespace CatalogTypes
open Text

namespace Json

/-- All strings of a value have bytes, the names of its members among them. -/
inductive HasBytes : Json → Prop
  | null : HasBytes .null
  | bool (value : Bool) : HasBytes (.bool value)
  | int (value : Int) : HasBytes (.int value)
  | float (value : Binary64) : HasBytes (.float value)
  | string {value : Text} (h : value.HasBytes) : HasBytes (.string value)
  | array {items : List Json} (h : ∀ item ∈ items, HasBytes item) : HasBytes (.array items)
  | object {members : List (Text × Json)} (hn : ∀ m ∈ members, m.1.HasBytes)
    (h : ∀ m ∈ members, HasBytes m.2) :
    HasBytes (.object members)

theorem hasBytes_unitEscape (n : Nat) : (unitEscape n).HasBytes := by
  have hopen : (text "\\u").HasBytes := by decide
  refine hopen.append fun c hc => ?_
  obtain ⟨i, _, rfl⟩ := List.mem_map.mp hc
  have hdigit : ∀ d < 16, (CodePoint.ofChar (Nat.digitChar d)).isSurrogate = false := by decide
  exact hdigit (n >>> (4 * i) % 16) (Nat.mod_lt _ (by decide))

theorem hasBytes_escaped {c : CodePoint} (h : c.isSurrogate = false) :
    (escaped .unicode c).HasBytes := by
  have hback : CodePoint.backslash.isSurrogate = false := rfl
  unfold escaped
  split
  · exact List.forall_mem_cons.mpr ⟨hback, List.forall_mem_singleton.mpr h⟩
  split
  · decide
  split
  · decide
  split
  · decide
  split
  · decide
  split
  · decide
  split
  · exact hasBytes_unitEscape c.val
  · simpa [Text.HasBytes] using h

theorem hasBytes_writeString {s : Text} (h : s.HasBytes) : (writeString .unicode s).HasBytes := by
  have hmark : Text.HasBytes [CodePoint.quotationMark] := by decide
  exact (hmark.append (Text.HasBytes.flatMap fun c hc => hasBytes_escaped (h c hc))).append hmark

theorem hasBytes_write {v : Json} (h : v.HasBytes) : (v.write .unicode).HasBytes := by
  have hseparator : (text ", ").HasBytes := by decide
  induction h with
  | null => exact (by decide : (text "null").HasBytes)
  | bool value => cases value <;> decide
  | int n => exact (isNumeric_ofInt n).hasBytes
  | float x => exact (Binary64.isNumeric_render (by decide) (by decide) x).hasBytes
  | string h => exact hasBytes_writeString h
  | @array items _ ih =>
    have hopen : (text "[").HasBytes := by decide
    have hclose : (text "]").HasBytes := by decide
    rw [write, writeItems_eq]
    exact (hopen.append (hasBytes_intercalate hseparator (List.forall_mem_map.mpr ih))).append
      hclose
  | @object members hn _ ih =>
    have hopen : (text "\x7b").HasBytes := by decide
    have hclose : (text "\x7d").HasBytes := by decide
    have hcolon : (text ": ").HasBytes := by decide
    have hmember : ∀ m ∈ members, (writeMember .unicode m).HasBytes := by
      intro m hm
      exact ((hasBytes_writeString (hn m hm)).append hcolon).append (ih m hm)
    rw [write, writeMembers_eq]
    exact (hopen.append (hasBytes_intercalate hseparator (List.forall_mem_map.mpr hmember))).append
      hclose

theorem HasBytes.of_array {items : List Json} (h : HasBytes (.array items)) :
    ∀ item ∈ items, item.HasBytes := by
  cases h with
  | array h => exact h

theorem HasBytes.of_lookup {members : List (Text × Json)} (h : HasBytes (.object members))
    {name : Text} {value : Json} (hl : members.lookup name = some value) : value.HasBytes := by
  obtain ⟨front, back, rfl, _⟩ := List.lookup_eq_some_iff.mp hl
  cases h with
  | object _ h => exact h (name, value) (by simp)

end Json

namespace TypeBox.Expr

/-- All names and choices of an expression have bytes. -/
inductive HasBytes : Expr → Prop
  | plain {e : Expr} (h : e.isPlain) : HasBytes e
  | union {literals : List Json} (h : ∀ v ∈ literals, v.HasBytes) : HasBytes (.union literals)
  | array {items : Expr} (h : HasBytes items) : HasBytes (.array items)
  | object {fields : List (Text × Bool × Expr)} (hn : ∀ f ∈ fields, f.1.HasBytes)
    (h : ∀ f ∈ fields, HasBytes f.2.2) :
    HasBytes (.object fields)

theorem hasBytes_key {name : Text} (h : name.HasBytes) : (key name).HasBytes := by
  unfold key
  split
  · exact h
  · exact Json.hasBytes_writeString h

theorem hasBytes_literal {v : Json} (h : v.HasBytes) : (literal v).HasBytes := by
  have hopen : (text "Type.Literal(").HasBytes := by decide
  have hclose : (text ")").HasBytes := by decide
  exact (hopen.append (Json.hasBytes_write h)).append hclose

theorem hasBytes_optional {required : Bool} {type : Text} (h : type.HasBytes) :
    (optional required type).HasBytes := by
  have hopen : (text "Type.Optional(").HasBytes := by decide
  have hclose : (text ")").HasBytes := by decide
  cases required with
  | false => exact (hopen.append h).append hclose
  | true => exact h

/-- The text of an expression has bytes if its names, its choices and its indentation do. -/
theorem hasBytes_render {e : Expr} (h : e.HasBytes) {indent : Text} (hi : indent.HasBytes) :
    (e.render indent).HasBytes := by
  induction h generalizing indent with
  | @plain e hp =>
    cases e with
    | any | string | number | integer | boolean | null =>
      rw [render]
      decide
    | union _ | array _ | object _ => cases hp
  | @union literals hl =>
    have hopen : (text "Type.Union([").HasBytes := by decide
    have hclose : (text "])").HasBytes := by decide
    have hseparator : (text ", ").HasBytes := by decide
    have hliterals : ∀ v ∈ literals, (literal v).HasBytes := fun v hv => hasBytes_literal (hl v hv)
    rw [render]
    exact (hopen.append
      (hasBytes_intercalate hseparator (List.forall_mem_map.mpr hliterals))).append hclose
  | array _ ih =>
    have hopen : (text "Type.Array(").HasBytes := by decide
    have hclose : (text ")").HasBytes := by decide
    rw [render]
    exact (hopen.append (ih hi)).append hclose
  | @object fields hn _ ih =>
    have hseparator : (text ",\n").HasBytes := by decide
    have hbreak : (text "\n").HasBytes := by decide
    have hcolon : (text ": ").HasBytes := by decide
    have hopen : (text "Type.Object(\x7b\n").HasBytes := by decide
    have hclose : (text "\x7d)").HasBytes := by decide
    have hindented : Text.HasBytes (indent ++ indentation) := hi.append (by decide)
    have hfields : ∀ f ∈ fields, (field (indent ++ indentation) f).HasBytes := by
      intro f hf
      exact ((hindented.append (hasBytes_key (hn f hf))).append hcolon).append
        (hasBytes_optional (ih f hf hindented))
    cases fields with
    | nil => exact (by decide : (text "Type.Object(\x7b\x7d)").HasBytes)
    | cons f rest =>
      rw [render, renderFields_eq]
      exact (((hopen.append
        (hasBytes_intercalate hseparator (List.forall_mem_map.mpr hfields))).append hbreak).append
        hi).append hclose

theorem hasBytes_ofLeaf (kind : LeafKind) : (ofLeaf kind).HasBytes := .plain (by cases kind <;> rfl)

theorem hasBytes_ofProperties {child : Json → Except SchemaError (Schema Json)}
    {properties : List (Text × Json)} {ps : List (Text × Schema Json)} (required : List Text)
    (h : Schema.readProperties child properties = .ok ps)
    (hc : ∀ p ∈ properties, ∀ s, child p.2 = .ok s → (ofSchema s).HasBytes)
    (hn : ∀ p ∈ properties, p.1.HasBytes) :
    ∀ f ∈ ofProperties required ps, f.1.HasBytes ∧ f.2.2.HasBytes := by
  induction properties generalizing ps with
  | nil =>
    cases h
    exact List.forall_mem_nil _
  | cons p rest ih =>
    obtain ⟨s, others, hs, ho, rfl⟩ := Schema.readProperties_cons_eq_ok.mp h
    obtain ⟨hfirst, hrest⟩ := List.forall_mem_cons.mp hc
    obtain ⟨hname, hnames⟩ := List.forall_mem_cons.mp hn
    exact List.forall_mem_cons.mpr ⟨⟨hname, hfirst s hs⟩, ih ho hrest hnames⟩

section Members
variable {members : List (Text × Json)} (h : Json.HasBytes (.object members))
include h

theorem hasBytes_choices : ∀ v ∈ Source.tree.choices members, v.HasBytes := by
  unfold Source.choices
  cases hl : members.lookup (text "enum") with
  | none => exact List.forall_mem_nil _
  | some value =>
    have hv := h.of_lookup hl
    cases value with
    | array values => exact hv.of_array
    | null | bool _ | int _ | float _ | string _ | object _ => exact List.forall_mem_nil _

theorem hasBytes_items {items : Json} (hi : Source.tree.items? members = some items) :
    items.HasBytes := by
  unfold Source.items? at hi
  cases hl : members.lookup (text "items") with
  | none =>
    rw [hl] at hi
    cases hi
  | some value =>
    rw [hl] at hi
    exact Option.some.inj (Option.filter_eq_some_iff.mp hi).1 ▸ h.of_lookup hl

theorem hasBytes_properties :
    ∀ p ∈ Source.tree.properties members, p.1.HasBytes ∧ p.2.HasBytes := by
  unfold Source.properties
  cases hl : members.lookup (text "properties") with
  | none => exact List.forall_mem_nil _
  | some value =>
    have hv := h.of_lookup hl
    cases value with
    | object properties =>
      cases hv with
      | object hn hp => exact fun p hm => ⟨hn p hm, hp p hm⟩
    | null | bool _ | int _ | float _ | string _ | array _ => exact List.forall_mem_nil _

theorem hasBytes_of_readMembers {inner : Json → Except SchemaError (Schema Json)} {s : Schema Json}
    (hr : Schema.readMembers .tree inner members = .ok s)
    (hi : ∀ raw s, raw.HasBytes → inner raw = .ok s → (ofSchema s).HasBytes) :
    (ofSchema s).HasBytes := by
  cases Schema.formed_of_readMembers hr with
  | leaf => exact hasBytes_ofLeaf _
  | string =>
    have hchoices := hasBytes_choices h
    cases hc : Source.tree.choices members with
    | nil => exact .plain rfl
    | cons choice choices => exact .union (hc ▸ hchoices)
  | arrayOfAny => exact .array (.plain rfl)
  | array _ hitems hs => exact .array (hi _ _ (hasBytes_items h hitems) hs)
  | object _ hps =>
    have hparts := hasBytes_properties h
    have hfields := hasBytes_ofProperties (Source.tree.required members) hps
      (fun p hm s hs => hi p.2 s (hparts p hm).2 hs) fun p hm => (hparts p hm).1
    exact .object (fun f hm => (hfields f hm).1) fun f hm => (hfields f hm).2

end Members

/-- A schema is written with bytes if the value that it was read from has them. -/
theorem hasBytes_ofSchema {limit : Int} {room depth : Nat} {enclosing : List Nat} {raw : Json}
    {s : Schema Json} (h : Schema.readAt .tree limit room depth enclosing raw = .ok s)
    (hb : raw.HasBytes) : (ofSchema s).HasBytes := by
  induction room using Nat.strongRecOn generalizing depth enclosing raw s with
  | ind room ih =>
    cases raw with
    | object members =>
      have hlevel : Source.tree.level (.object members) = .object members := rfl
      obtain ⟨_, less, rfl, hr⟩ := Schema.readAt_ok_members hlevel h
      exact hasBytes_of_readMembers hb hr fun raw s hraw hs =>
        ih less (Nat.lt_succ_self less) hs hraw
    | null | bool _ | int _ | float _ | string _ | array _ =>
      rw [Schema.readAt_of_not_isObject rfl] at h
      cases h
      exact hasBytes_ofLeaf .unknown

end TypeBox.Expr
end CatalogTypes
