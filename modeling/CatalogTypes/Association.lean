/-! # Associations

A list of keys with their values. A key that gets a new value keeps its place, so the keys stay
in the order in which they first came.
-/
namespace CatalogTypes.Association
variable {κ α : Type} [BEq κ]

/-- Gives a key a value: in its old place when it has one, at the end otherwise. -/
def put (key : κ) (value : α) : List (κ × α) → List (κ × α)
  | [] => [(key, value)]
  | (k, v) :: rest => if k == key then (k, value) :: rest else (k, v) :: put key value rest

variable [LawfulBEq κ]

@[simp] theorem lookup_put (key : κ) (value : α) (entries : List (κ × α)) :
    (put key value entries).lookup key = some value := by
  induction entries with
  | nil => simp [put]
  | cons e rest ih =>
    obtain ⟨k, v⟩ := e
    by_cases h : k = key
    · simp [put, h]
    · have hk : (key == k) = false := by simpa using Ne.symm h
      simp [put, h, List.lookup_cons, hk, ih]

theorem lookup_put_of_ne {key other : κ} (h : other ≠ key) (value : α) (entries : List (κ × α)) :
    (put key value entries).lookup other = entries.lookup other := by
  have ho : (other == key) = false := by simpa using h
  induction entries with
  | nil => simp [put, List.lookup_cons, ho]
  | cons e rest ih =>
    obtain ⟨k, v⟩ := e
    by_cases hk : k = key
    · simp [put, hk, List.lookup_cons, ho]
    · simp [put, hk, List.lookup_cons, ih]

@[simp] theorem put_put (key : κ) (value old : α) (entries : List (κ × α)) :
    put key value (put key old entries) = put key value entries := by
  induction entries with
  | nil => simp [put]
  | cons e rest ih =>
    obtain ⟨k, v⟩ := e
    by_cases h : k = key
    · simp [put, h]
    · simp [put, h, ih]

/-- A key that has a place keeps it, so that another key may get its value before or after it. -/
theorem put_comm {key other : κ} (h : key ≠ other) {entries : List (κ × α)}
    (hk : (entries.lookup key).isSome) (value new : α) :
    put key value (put other new entries) = put other new (put key value entries) := by
  induction entries with
  | nil => cases hk
  | cons e rest ih =>
    obtain ⟨k, v⟩ := e
    by_cases hkey : k = key
    · subst hkey
      simp [put, h]
    · have hb : (key == k) = false := by simpa using Ne.symm hkey
      rw [List.lookup_cons, hb] at hk
      by_cases ho : k = other
      · subst ho
        simp [put, hkey]
      · simp [put, hkey, ho, ih hk]

section Members
variable {key : κ} {value : α} {entries : List (κ × α)}

theorem of_mem_put {e : κ × α} (h : e ∈ put key value entries) :
    e = (key, value) ∨ e ∈ entries := by
  induction entries with
  | nil => exact .inl (List.mem_singleton.mp h)
  | cons e' rest ih =>
    obtain ⟨k, v⟩ := e'
    rw [put] at h
    split at h
    next hk =>
      rcases List.mem_cons.mp h with rfl | h
      · exact .inl (by rw [eq_of_beq hk])
      · exact .inr (List.mem_cons_of_mem _ h)
    · rcases List.mem_cons.mp h with rfl | h
      · exact .inr List.mem_cons_self
      · exact (ih h).imp_right (List.mem_cons_of_mem _)

theorem nodup_put (h : (entries.map Prod.fst).Nodup) :
    ((put key value entries).map Prod.fst).Nodup := by
  induction entries with
  | nil => simp [put]
  | cons e rest ih =>
    obtain ⟨k, v⟩ := e
    obtain ⟨hk, hrest⟩ := List.nodup_cons.mp h
    rw [put]
    split
    · exact h
    next hne =>
      refine List.nodup_cons.mpr ⟨fun hm => ?_, ih hrest⟩
      obtain ⟨e, he, rfl⟩ := List.mem_map.mp hm
      rcases of_mem_put he with rfl | he
      · exact hne (beq_self_eq_true _)
      · have hmem : e.1 ∈ rest.map Prod.fst := List.mem_map_of_mem he
        exact hk hmem

end Members

end CatalogTypes.Association
