import CatalogTypes.Proofs.Schema.Cycles
import CatalogTypes.Proofs.Schema.View

/-! # Reading shared values

A graph is read as the tree that it unfolds to. Sharing is no cycle, so it makes no difference
to the result; and a cycle is always found, at the object that closes it or at the limit.
-/
namespace CatalogTypes
open Source Json

namespace Source
variable {α : Type}

/-- The same values with every object met as one of its own: what a source unfolds to, also where
it would unfold without end. -/
def unfolded (src : Source α) : Source α := { src with identity := fun _ => none }

theorem mapM_some (items : List α) : items.mapM some = some items := by
  have h : items.mapM (fun a => pure (id a)) = (pure (items.map id) : Option (List α)) :=
    List.mapM_pure
  rwa [List.map_id] at h

theorem viewMembers_some (members : List (Text × α)) : viewMembers some members = some members :=
  mapM_some members

theorem view_unfolded (src : Source α) : src.View src.unfolded some where
  level h := by
    cases h
    rename_i a
    show (src.level a).view? some = some (src.level a)
    cases src.level a <;> simp [Level.view?, mapM_some, viewMembers_some]
  apart _ := rfl

end Source

namespace Schema

mutual

theorem mapChoices?_some {ε : Type} : (s : Schema ε) → mapChoices? some s = some s
  | .leaf _ _ => rfl
  | .string _ choices => by simp [mapChoices?, mapM_some]
  | .array _ none => rfl
  | .array _ (some items) => by simp [mapChoices?, mapChoices?_some items]
  | .object _ properties _ => by simp [mapChoices?, mapProperties?_some properties]

theorem mapProperties?_some {ε : Type} :
    (ps : List (Text × Schema ε)) → mapProperties? some ps = some ps
  | [] => rfl
  | (_, s) :: rest => by simp [mapProperties?, mapChoices?_some s, mapProperties?_some rest]

end

end Schema

theorem mapM_mono {α β : Type} {f f' : α → Option β} (hf : ∀ a b, f a = some b → f' a = some b)
    {items : List α} {shown : List β} (h : items.mapM f = some shown) :
    items.mapM f' = some shown := by
  induction items generalizing shown with
  | nil => exact h
  | cons a rest ih =>
    obtain ⟨b, others, hb, ho, rfl⟩ := mapM_cons_eq_some h
    simp [hf a b hb, ih ho]

theorem viewMembers_mono {α β : Type} {f f' : α → Option β}
    (hf : ∀ a b, f a = some b → f' a = some b) {members : List (Text × α)} {shown : List (Text × β)}
    (h : viewMembers f members = some shown) :
    viewMembers f' members = some shown := by
  refine mapM_mono (fun m n hm => ?_) h
  obtain ⟨b, hb, rfl⟩ := Option.map_eq_some_iff.mp hm
  simp [hf _ b hb]

namespace Json.Graph
variable {g : Graph}

@[simp] theorem expand?_scalar (g : Graph) (depth : Nat) (value : Scalar) :
    g.expand? depth (.scalar value) = some value.toJson := by
  cases depth <;> rfl

theorem expand?_cell {depth place : Nat} {t : Json}
    (h : g.expand? (depth + 1) (.cell place) = some t) :
    (∃ items ts, g.cells[place]? = some (.array items) ∧ items.mapM (g.expand? depth) = some ts ∧
      t = .array ts) ∨
    (∃ members ts, g.cells[place]? = some (.object members) ∧
      viewMembers (g.expand? depth) members = some ts ∧ t = .object ts) := by
  unfold expand? at h
  cases hc : g.cells[place]? with
  | none => simp [hc] at h
  | some cell =>
    cases cell with
    | array items =>
      simp only [hc] at h
      obtain ⟨ts, hts, rfl⟩ := Option.map_eq_some_iff.mp h
      exact .inl ⟨items, ts, rfl, hts, rfl⟩
    | object members =>
      simp only [hc] at h
      obtain ⟨ts, hts, rfl⟩ := Option.map_eq_some_iff.mp h
      exact .inr ⟨members, ts, rfl, hts, rfl⟩

/-- An unfolding that is finished stays the same with more depth to go. -/
theorem expand?_succ {depth : Nat} {ref : Ref} {t : Json} (h : g.expand? depth ref = some t) :
    g.expand? (depth + 1) ref = some t := by
  induction depth generalizing ref t with
  | zero =>
    cases ref with
    | scalar value => simpa using h
    | cell place => cases h
  | succ depth ih =>
    cases ref with
    | scalar value => simpa using h
    | cell place =>
      obtain ⟨items, ts, hc, hts, rfl⟩ | ⟨members, ts, hc, hts, rfl⟩ := expand?_cell h
      · have hm := mapM_mono (fun _ _ => ih) hts
        unfold expand?
        simp only [hc, hm]
        rfl
      · have hm := viewMembers_mono (fun _ _ => ih) hts
        unfold viewMembers at hm
        unfold expand?
        simp only [hc, hm]
        rfl

theorem view_tree (g : Graph) (depth : Nat) : (Source.graph g).View .tree (g.expand? depth) where
  level {ref t} h := by
    cases ref with
    | scalar value =>
      obtain rfl : value.toJson = t := by simpa using h
      cases value <;> rfl
    | cell place =>
      cases depth with
      | zero => cases h
      | succ depth =>
        obtain ⟨items, ts, hc, hts, rfl⟩ | ⟨members, ts, hc, hts, rfl⟩ := expand?_cell h
        · have hm := mapM_mono (fun _ _ => expand?_succ) hts
          simp [Source.graph, cell?, hc, Level.view?, hm, Source.tree]
        · have hm := viewMembers_mono (fun _ _ => expand?_succ) hts
          simp [Source.graph, cell?, hc, Level.view?, hm, Source.tree]
  apart _ := rfl

end Json.Graph

namespace Schema
variable {g : Graph} {root : Ref} {limit larger : Nat} {s : Schema Ref}

/-- Sharing makes no difference, and neither does a higher limit. -/
theorem read_unfolded {α : Type} {src : Source α} {root : α} {s : Schema α}
    (h : read src limit root = .ok s) (hl : limit ≤ larger) :
    read src.unfolded larger root = .ok s := by
  obtain ⟨t, ht, hst⟩ := read_view src.view_unfolded h rfl hl
  rw [mapChoices?_some] at hst
  cases hst
  exact ht

theorem read_larger (h : read (graph g) limit root = .ok s) (hl : limit ≤ larger) :
    read (graph g) larger root = .ok s := by
  have hp := (read_ok_iff (graph_identifies g)).mp ⟨s, h⟩
  have hq : ∀ above raw, SchemaPath (graph g) root above raw → above.length ≤ larger :=
    fun above raw hr => Nat.le_trans (hp above raw hr) hl
  obtain ⟨t, ht⟩ := (read_ok_iff (graph_identifies g)).mpr hq
  have hs := read_unfolded h hl
  rw [read_unfolded ht (Nat.le_refl _)] at hs
  cases hs
  exact ht

theorem read_tree (h : read (graph g) limit root = .ok s) (hl : limit ≤ larger) {depth : Nat}
    {t : Json} (ht : g.expand? depth root = some t) :
    ∃ s', mapChoices? (g.expand? depth) s = some s' ∧ read .tree larger t = .ok s' := by
  obtain ⟨s', hs, hm⟩ := read_view (g.view_tree depth) h ht hl
  exact ⟨s', hm, hs⟩

/-- A reading of shared values succeeds just when no schema path is longer than the limit. The
result is then that of the unfolded value under this limit and any higher one, and so that of the
tree where the unfolding ends. A cycle that is reported closes a schema path of the given length;
a depth that is reported is reached without meeting any object twice. No limit admits a cycle. -/
theorem read_graph_exact (g : Graph) (root : Ref) (limit : Nat) :
    ((∃ s, read (graph g) limit root = .ok s) ↔
      ∀ above raw, SchemaPath (graph g) root above raw → above.length ≤ limit) ∧
    ((graph g).isObject root = false → read (graph g) limit root = .ok anything) ∧
    (∀ s, read (graph g) limit root = .ok s → ∀ larger : Nat, limit ≤ larger →
      read (graph g) larger root = .ok s ∧ read (graph g).unfolded larger root = .ok s ∧
        ∀ depth t, g.expand? depth root = some t →
          ∃ s', mapChoices? (g.expand? depth) s = some s' ∧ read .tree larger t = .ok s') ∧
    (∀ e, read (graph g) limit root = .error e →
      (∃ above raw, SchemaPath (graph g) root above raw ∧ raw ∈ above ∧ e = .cyclic above.length) ∨
      (∃ above raw, SchemaPath (graph g) root above raw ∧ above.length = limit + 1 ∧
        (raw :: above).Nodup ∧ e = .tooDeep limit)) ∧
    (∀ above raw, SchemaPath (graph g) root above raw → raw ∈ above →
      ∃ e, read (graph g) limit root = .error e) := by
  refine ⟨read_ok_iff (graph_identifies g), readAt_of_not_isObject, ?_, ?_, ?_⟩
  · intro s h larger hl
    exact ⟨read_larger h hl, read_unfolded h hl, fun depth t ht => read_tree h hl ht⟩
  · intro e h
    exact blames_of_read (graph_identifies g) h
  · intro above raw hp hr
    cases h : read (graph g) limit root with
    | ok s => exact absurd hr (not_mem_of_read h hp)
    | error e => exact ⟨e, rfl⟩

def selfItems : Graph :=
  ⟨#[.object [("type", .scalar (.string "array")), ("items", .cell 0)]], .cell 0⟩

theorem read_graph_exact_selfItems : ∃ e, read (graph selfItems) 64 (.cell 0) = .error e :=
  (read_graph_exact selfItems (.cell 0) 64).2.2.2.2 [.cell 0] (.cell 0)
    (.part (.root rfl) (by decide))
    List.mem_cons_self

end Schema
end CatalogTypes
