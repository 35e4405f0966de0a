import CatalogTypes.Schema.Reading

/-! # Schema paths

The reader follows a schema path from an object to its items or to one of its properties. A path
that comes back to an object on it can be run through again and again, so paths are bounded in
length only where no object lies inside itself.
-/
namespace CatalogTypes.Source
variable {α : Type} {src : Source α}

/-- The objects among the members that the schema of their object is made of. -/
def partsOf (src : Source α) (members : List (Text × α)) : List α :=
  match src.kind members with
  | .leaf _ | .string => []
  | .array => (src.items? members).toList
  | .object => ((src.properties members).map Prod.snd).filter src.isObject

/-- The objects that a schema is made of, one step further down. -/
def parts (src : Source α) (raw : α) : List α :=
  match src.level raw with
  | .object members => src.partsOf members
  | _ => []

/-- A chain of objects from a root down to one of them. Those above the last one are listed with
the nearest first, so there are as many of them as the chain has steps. -/
inductive SchemaPath (src : Source α) (root : α) : List α → α → Prop
  | root (h : src.isObject root) : SchemaPath src root [] root
  | part {above : List α} {raw child : α} (h : SchemaPath src root above raw)
      (hc : child ∈ src.parts raw) : SchemaPath src root (raw :: above) child

theorem isObject_of_mem_partsOf {members : List (Text × α)} {child : α}
    (h : child ∈ src.partsOf members) :
    src.isObject child := by
  unfold partsOf at h
  split at h
  · simp at h
  · simp at h
  · exact (Option.filter_eq_some_iff.mp (Option.mem_toList.mp h)).2
  · exact (List.mem_filter.mp h).2

theorem isObject_of_mem_parts {raw child : α} (h : child ∈ src.parts raw) : src.isObject child := by
  unfold parts at h
  split at h
  · exact isObject_of_mem_partsOf h
  · simp at h

theorem exists_members {raw : α} (h : src.isObject raw) :
    ∃ members, src.level raw = .object members := by
  unfold isObject at h
  split at h
  · exact ⟨_, by assumption⟩
  · contradiction

namespace SchemaPath
variable {root raw : α} {above : List α}

theorem isObject (h : SchemaPath src root above raw) : src.isObject raw := by
  cases h with
  | root h => exact h
  | part _ hc => exact isObject_of_mem_parts hc

/-- The end of a path can be gone from wherever it is reached. -/
theorem reroute {below other : List α} {a : α} (h : SchemaPath src root (below ++ a :: above) raw)
    (ho : SchemaPath src root other a) : SchemaPath src root (below ++ a :: other) raw := by
  induction below generalizing raw with
  | nil => cases h with | part _ hc => exact ho.part hc
  | cons b below ih => cases h with | part h hc => exact (ih h).part hc

/-- An object that lies inside itself is reached by paths of any length. -/
theorem exists_longer (h : SchemaPath src root above raw) (hr : raw ∈ above) (n : Nat) :
    ∃ longer, n ≤ longer.length ∧ SchemaPath src root longer raw := by
  induction n with
  | zero => exact ⟨above, Nat.zero_le _, h⟩
  | succ n ih =>
    obtain ⟨longer, hn, hl⟩ := ih
    obtain ⟨below, rest, rfl⟩ := List.append_of_mem hr
    refine ⟨below ++ raw :: longer, ?_, h.reroute hl⟩
    simp only [List.length_append, List.length_cons]
    omega

end SchemaPath
end CatalogTypes.Source
