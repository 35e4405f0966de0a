import CatalogTypes.Json.Decode
import CatalogTypes.Proofs.Results

/-! # Members with names of their own

A repeated name of a member takes its last value when an object is read, so the members of every
object in a value that was read have distinct names, however deep the object lies.
-/
namespace CatalogTypes.Json
variable {t rest : Text} {v : Json}

def members : Json → List (Text × Json)
  | .object members => members
  | _ => []

/-- The members of each object in a value have distinct names. -/
inductive Keyed : Json → Prop
  | null : Keyed .null
  | bool (value : Bool) : Keyed (.bool value)
  | int (value : Int) : Keyed (.int value)
  | float (value : Binary64) : Keyed (.float value)
  | string (value : Text) : Keyed (.string value)
  | array {items : List Json} (h : ∀ item ∈ items, Keyed item) : Keyed (.array items)
  | object {members : List (Text × Json)} (hn : (members.map Prod.fst).Nodup)
    (h : ∀ m ∈ members, Keyed m.2) :
    Keyed (.object members)

namespace Keyed
variable {raw : Json} {members : List (Text × Json)}

theorem nodup_names (h : v.Keyed) : (v.members.map Prod.fst).Nodup := by
  cases h with
  | object hn _ => exact hn
  | null | bool | int | float | string | array => exact List.nodup_nil

theorem of_mem_members (h : v.Keyed) {m : Text × Json} (hm : m ∈ v.members) : m.2.Keyed := by
  cases h with
  | object _ hk => exact hk m hm
  | null | bool | int | float | string | array => cases hm

theorem of_member? (h : raw.Keyed) {name : Text} (hv : raw.member? name = some v) : v.Keyed := by
  cases raw with
  | object members =>
    obtain ⟨front, back, rfl, _⟩ := List.lookup_eq_some_iff.mp hv
    exact h.of_mem_members (m := (name, v)) (by simp [Json.members])
  | null | bool | int | float | string | array => cases hv

theorem put (h : Keyed (.object members)) (name : Text) (hv : v.Keyed) :
    Keyed (.object (Association.put name v members)) := by
  refine .object (Association.nodup_put h.nodup_names) fun m hm => ?_
  rcases Association.of_mem_put hm with rfl | hm
  · exact hv
  · exact h.of_mem_members hm

end Keyed

section Reading
variable {room fuel : Nat}

theorem keyed_of_namedValue? (h : namedValue? t = some (v, rest)) : v.Keyed := by
  obtain ⟨⟨name, value⟩, hm, hv⟩ := List.exists_of_findSome?_eq_some h
  obtain ⟨_, _, he⟩ := Option.map_eq_some_iff.mp hv
  cases he
  have hall : ∀ named ∈ namedValues, named.2.Keyed := by
    simp only [namedValues, List.forall_mem_cons]
    exact ⟨.null, .bool _, .bool _, .float _, .float _, .float _, nofun⟩
  exact hall _ hm

theorem keyed_of_readNumber (h : readNumber t = .ok (v, rest)) : v.Keyed := by
  unfold readNumber at h
  dsimp only at h
  split at h
  · cases h
  · split at h
    · split at h
      · cases h
      · cases h
        exact .int _
    · cases h
      exact .float _

/-- What the readers of values, items and members give with so much fuel is keyed. -/
structure ReadsKeyed (fuel : Nat) : Prop where
  value {room : Nat} {t rest : Text} {v : Json}
    (h : readValue room fuel t = .ok (v, rest)) : v.Keyed
  items {room : Nat} {done items : List Json} {t rest : Text} (hd : ∀ item ∈ done, item.Keyed)
    (h : readItems room done fuel t = .ok (items, rest)) : ∀ item ∈ items, item.Keyed
  members {room : Nat} {done members : List (Text × Json)} {t rest : Text}
    (hd : Keyed (.object done)) (h : readMembers room done fuel t = .ok (members, rest)) : Keyed
      (.object members)

variable (hf : ReadsKeyed fuel)
include hf

theorem keyed_of_readItems {done items : List Json} (hd : ∀ item ∈ done, item.Keyed)
    (h : readItems room done (fuel + 1) t = .ok (items, rest)) : ∀ item ∈ items, item.Keyed := by
  rw [readItems] at h
  obtain ⟨⟨value, after⟩, hvalue, h⟩ := bind_eq_ok.mp h
  have hmore : ∀ item ∈ value :: done, item.Keyed := List.forall_mem_cons.mpr ⟨hf.value hvalue, hd⟩
  dsimp only at h
  split at h
  · cases h
    exact fun item hi => hmore item (List.mem_reverse.mp hi)
  · split at h
    · exact hf.items hmore h
    · cases h

theorem keyed_of_readMembers {done members : List (Text × Json)} (hd : Keyed (.object done))
    (h : readMembers room done (fuel + 1) t = .ok (members, rest)) : Keyed (.object members) := by
  rw [readMembers] at h
  dsimp only at h
  split at h
  · cases h
  · obtain ⟨⟨name, afterName⟩, _, h⟩ := bind_eq_ok.mp h
    dsimp only at h
    split at h
    · cases h
    · obtain ⟨⟨value, after⟩, hvalue, h⟩ := bind_eq_ok.mp h
      have hmore := hd.put name (hf.value hvalue)
      dsimp only at h
      split at h
      · cases h
        exact hmore
      · split at h
        · exact hf.members hmore h
        · cases h

theorem keyed_of_readValue (h : readValue room (fuel + 1) t = .ok (v, rest)) : v.Keyed := by
  unfold readValue at h
  cases t with
  | nil => cases h
  | cons c t =>
    dsimp only at h
    split at h
    next hquote =>
      obtain ⟨⟨value, after⟩, _, h⟩ := bind_eq_ok.mp h
      cases h
      exact .string value
    split at h
    next hbracket =>
      cases room with
      | zero => cases h
      | succ room =>
        dsimp only at h
        split at h
        · cases h
          exact .array (List.forall_mem_nil _)
        · obtain ⟨⟨items, after⟩, hitems, h⟩ := bind_eq_ok.mp h
          cases h
          exact .array (hf.items (List.forall_mem_nil _) hitems)
    split at h
    next hbrace =>
      have hnone : Keyed (.object []) := .object List.nodup_nil (List.forall_mem_nil _)
      cases room with
      | zero => cases h
      | succ room =>
        dsimp only at h
        split at h
        · cases h
          exact hnone
        · obtain ⟨⟨members, after⟩, hmembers, h⟩ := bind_eq_ok.mp h
          cases h
          exact hf.members hnone hmembers
    split at h
    next found hnamed =>
      cases h
      exact keyed_of_namedValue? hnamed
    next => exact keyed_of_readNumber h

omit hf

theorem readsKeyed (fuel : Nat) : ReadsKeyed fuel := by
  induction fuel with
  | zero => exact ⟨nofun, nofun, nofun⟩
  | succ fuel ih => exact ⟨keyed_of_readValue ih, keyed_of_readItems ih, keyed_of_readMembers ih⟩

end Reading

theorem keyed_of_decode {whole : Text} (h : decode whole = .ok v) : v.Keyed := by
  rw [decode, mapError_eq_ok] at h
  dsimp only at h
  split at h
  · cases h
  · obtain ⟨⟨value, after⟩, hvalue, h⟩ := bind_eq_ok.mp h
    dsimp only at h
    split at h
    · cases h
      exact (readsKeyed _).value hvalue
    · cases h

end CatalogTypes.Json
