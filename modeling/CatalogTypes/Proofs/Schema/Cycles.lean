import CatalogTypes.Proofs.Schema.Reading

/-! # Cycles and depth

Where objects have identities of their own, the objects that enclose a value on a reading are
exactly those above it on its schema path. So a reading succeeds just when no schema path is
longer than the limit, and what it reports otherwise is true of some schema path.
-/
namespace CatalogTypes
variable {α : Type} {src : Source α}

namespace Source

/-- Every object has an identity, and no other value has the same one. -/
def Identifies (src : Source α) : Prop :=
  ∀ a, src.isObject a → ∃ i, src.identity a = some i ∧ ∀ b, src.identity b = some i → b = a

def enclosure (src : Source α) (above : List α) : List Nat :=
  above.flatMap fun a => (src.identity a).toList

theorem isEnclosed_enclosure (hs : src.Identifies) {raw : α} (ho : src.isObject raw)
    (above : List α) :
    src.isEnclosed (src.enclosure above) raw = true ↔ raw ∈ above := by
  obtain ⟨i, hi, hu⟩ := hs raw ho
  simp only [isEnclosed, hi, List.contains_iff_mem, enclosure, List.mem_flatMap, Option.mem_toList]
  constructor
  · rintro ⟨a, ha, hai⟩
    exact hu a hai ▸ ha
  · intro h
    exact ⟨raw, h, hi⟩

theorem not_mem_of_isEnclosed_eq_false (hs : src.Identifies) {raw : α} (ho : src.isObject raw)
    {above : List α} (h : src.isEnclosed (src.enclosure above) raw = false) : raw ∉ above := by
  intro hm
  rw [(isEnclosed_enclosure hs ho above).mpr hm] at h
  cases h

theorem graph_identifies (g : Json.Graph) : (graph g).Identifies := by
  intro a ho
  cases a with
  | scalar value => cases value <;> simp [isObject, graph, Json.Graph.cell?] at ho
  | cell place =>
    refine ⟨place, rfl, ?_⟩
    intro b hb
    cases b with
    | scalar _ => cases hb
    | cell other => cases hb; rfl

end Source

namespace Schema
open Source
variable {root raw : α} {above : List α} {s : Schema α} {e : SchemaError} {limit room : Nat}

/-- A successful reading has read every object on a schema path. -/
theorem readAt_of_path (h : read src limit root = .ok s) (hp : SchemaPath src root above raw) :
    ∃ room s, room + above.length = limit + 1 ∧
      readAt src limit room above.length (src.enclosure above) raw = .ok s := by
  induction hp with
  | root => exact ⟨limit + 1, s, rfl, h⟩
  | @part above raw child hp hc ih =>
    obtain ⟨room, s, hr, hs⟩ := ih
    obtain ⟨_, less, rfl, hparts⟩ := readAt_ok hs hp.isObject
    obtain ⟨s, hs⟩ := hparts child hc
    exact ⟨less, s, by simp only [List.length_cons]; omega, hs⟩

theorem length_le_of_read (h : read src limit root = .ok s) (hp : SchemaPath src root above raw) :
    above.length ≤ limit := by
  obtain ⟨room, s, hr, hs⟩ := readAt_of_path h hp
  obtain ⟨_, less, rfl, _⟩ := readAt_ok hs hp.isObject
  omega

/-- A path that meets its own end makes every limit too small. -/
theorem not_mem_of_read (h : read src limit root = .ok s) (hp : SchemaPath src root above raw) :
    raw ∉ above := by
  intro hr
  obtain ⟨longer, hl, hp⟩ := hp.exists_longer hr (limit + 1)
  have hle := length_le_of_read h hp
  omega

/-- What a failure tells about the schema paths from a root. -/
def Blames (src : Source α) (limit : Nat) (root : α) (e : SchemaError) : Prop :=
  (∃ above raw, SchemaPath src root above raw ∧ raw ∈ above ∧ e = .cyclic above.length) ∨
    (∃ above raw, SchemaPath src root above raw ∧ above.length = limit + 1 ∧ (raw :: above).Nodup ∧
      e = .tooDeep limit)

/-- The objects above are distinct, since each was checked against those before it; so whatever
is refused in the end, the path down to it tells why. -/
theorem blames_of_readAt (hs : src.Identifies)
    (hp : src.isObject raw → SchemaPath src root above raw) (hn : above.Nodup)
    (hr : room + above.length = limit + 1)
    (h : readAt src limit room above.length (src.enclosure above) raw = .error e) :
    Blames src limit root e := by
  induction room generalizing above raw with
  | zero =>
    obtain ⟨ho, ⟨hc, rfl⟩ | ⟨hf, ⟨_, rfl⟩ | ⟨less, hl, _⟩⟩⟩ := readAt_error h
    · exact .inl ⟨above, raw, hp ho, (isEnclosed_enclosure hs ho above).mp hc, rfl⟩
    · have hfresh := not_mem_of_isEnclosed_eq_false hs ho hf
      exact .inr ⟨above, raw, hp ho, by omega, List.nodup_cons.mpr ⟨hfresh, hn⟩, rfl⟩
    · contradiction
  | succ room ih =>
    obtain ⟨ho, ⟨hc, rfl⟩ | ⟨hf, ⟨h0, _⟩ | ⟨less, hl, child, hc, he⟩⟩⟩ := readAt_error h
    · exact .inl ⟨above, raw, hp ho, (isEnclosed_enclosure hs ho above).mp hc, rfl⟩
    · contradiction
    · obtain rfl : room = less := by omega
      have hfresh := not_mem_of_isEnclosed_eq_false hs ho hf
      exact ih (fun _ => (hp ho).part hc) (List.nodup_cons.mpr ⟨hfresh, hn⟩)
        (by simp only [List.length_cons]; omega) he

theorem blames_of_read (hs : src.Identifies) (h : read src limit root = .error e) :
    Blames src limit root e :=
  blames_of_readAt hs SchemaPath.root List.nodup_nil (by simp) h

/-- A reading succeeds just when no schema path is longer than the limit. -/
theorem read_ok_iff (hs : src.Identifies) :
    (∃ s, read src limit root = .ok s) ↔
      ∀ above raw, SchemaPath src root above raw → above.length ≤ limit := by
  constructor
  · rintro ⟨s, h⟩ above raw hp
    exact length_le_of_read h hp
  · intro hb
    cases h : read src limit root with
    | ok s => exact ⟨s, rfl⟩
    | error e =>
      exfalso
      obtain ⟨above, raw, hp, hr, _⟩ | ⟨above, raw, hp, hl, _⟩ := blames_of_read hs h
      · obtain ⟨longer, hl, hp⟩ := hp.exists_longer hr (limit + 1)
        have hle := hb _ _ hp
        omega
      · have hle := hb _ _ hp
        omega

end Schema
end CatalogTypes
