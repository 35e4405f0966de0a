import CatalogTypes.Proofs.Results
import CatalogTypes.Proofs.Schema.Path

/-! # What a reading does

One step of the reader refuses an object at once or reads all of its parts in the same way, with
the object among those that enclose them. A whole reading therefore succeeds only if every
schema path is short enough, and its failure can be followed down to the object that is to blame.
-/
namespace CatalogTypes
open Source

variable {α : Type} {src : Source α}

namespace Schema

section Properties
variable {child : α → Except SchemaError (Schema α)} {properties : List (Text × α)}

theorem readProperties_cons_eq_ok {name : Text} {raw : α} {ps : List (Text × Schema α)} :
    readProperties child ((name, raw) :: properties) = .ok ps ↔
      ∃ s others, child raw = .ok s ∧ readProperties child properties = .ok others ∧
      ps = (name, s) :: others := by
  rw [readProperties, bind_eq_ok]
  apply exists_congr
  intro s
  rw [bind_eq_ok]
  constructor
  · rintro ⟨hs, others, ho, hp⟩
    cases hp
    exact ⟨others, hs, ho, rfl⟩
  · rintro ⟨others, hs, ho, rfl⟩
    exact ⟨hs, others, ho, rfl⟩

theorem readProperties_ok {ps : List (Text × Schema α)}
    (h : readProperties child properties = .ok ps) {p : Text × α} (hp : p ∈ properties) :
    ∃ s, child p.2 = .ok s := by
  induction properties generalizing ps with
  | nil => simp at hp
  | cons q rest ih =>
    obtain ⟨s, others, hs, hr, _⟩ := readProperties_cons_eq_ok.mp h
    rcases List.mem_cons.mp hp with rfl | hp
    · exact ⟨s, hs⟩
    · exact ih hr hp

theorem readProperties_error {e : SchemaError} (h : readProperties child properties = .error e) :
    ∃ p ∈ properties, child p.2 = .error e := by
  induction properties with
  | nil => cases h
  | cons q rest ih =>
    rcases bind_eq_error.mp h with hq | ⟨s, _, hrest⟩
    · exact ⟨q, List.mem_cons_self, hq⟩
    · rcases bind_eq_error.mp hrest with hr | ⟨_, _, hn⟩
      · obtain ⟨p, hp, hpe⟩ := ih hr
        exact ⟨p, List.mem_cons_of_mem _ hp, hpe⟩
      · cases hn

end Properties

/-- What an object can be read as, by the kind that its members declare. -/
inductive Formed (src : Source α) (inner : α → Except SchemaError (Schema α))
    (members : List (Text × α)) :
    Schema α → Prop
  | leaf {kind : LeafKind} (hk : src.kind members = .leaf kind) :
    Formed src inner members (.leaf (src.caption members) kind)
  | string (hk : src.kind members = .string) :
    Formed src inner members (.string (src.caption members) (src.choices members))
  | arrayOfAny (hk : src.kind members = .array) (hi : src.items? members = none) :
    Formed src inner members (.array (src.caption members) none)
  | array {raw : α} {items : Schema α} (hk : src.kind members = .array)
    (hi : src.items? members = some raw) (h : inner raw = .ok items) :
    Formed src inner members (.array (src.caption members) (some items))
  | object {ps : List (Text × Schema α)} (hk : src.kind members = .object)
    (h : readProperties inner (src.properties members) = .ok ps) :
    Formed src inner members (.object (src.caption members) ps (src.required members))

theorem formed_of_readMembers {inner : α → Except SchemaError (Schema α)}
    {members : List (Text × α)} {s : Schema α} (h : readMembers src inner members = .ok s) :
    Formed src inner members s := by
  unfold readMembers at h
  cases hk : src.kind members with
  | leaf kind =>
    simp only [hk, Except.ok.injEq] at h
    exact h ▸ .leaf hk
  | string =>
    simp only [hk, Except.ok.injEq] at h
    exact h ▸ .string hk
  | array =>
    simp only [hk] at h
    cases hi : src.items? members with
    | none =>
      simp only [hi, Except.ok.injEq] at h
      exact h ▸ .arrayOfAny hk hi
    | some raw =>
      simp only [hi] at h
      obtain ⟨items, hitems, rfl⟩ := map_eq_ok.mp h
      exact .array hk hi hitems
  | object =>
    simp only [hk] at h
    obtain ⟨ps, hps, rfl⟩ := map_eq_ok.mp h
    exact .object hk hps

theorem readMembers_ok {inner : α → Except SchemaError (Schema α)} {members : List (Text × α)}
    {s : Schema α} (h : readMembers src inner members = .ok s) {child : α}
    (hc : child ∈ src.partsOf members) : ∃ s, inner child = .ok s := by
  unfold partsOf at hc
  cases formed_of_readMembers h with
  | leaf hk => simp [hk] at hc
  | string hk => simp [hk] at hc
  | arrayOfAny hk hi => simp [hk, hi] at hc
  | @array raw items hk hi hitems =>
    have hchild : child = raw := by simpa [hk, hi] using hc
    exact ⟨items, hchild ▸ hitems⟩
  | object hk hps =>
    simp only [hk] at hc
    obtain ⟨p, hp, rfl⟩ := List.mem_map.mp (List.mem_filter.mp hc).1
    exact readProperties_ok hps hp

/-- Only objects can fail to be read, so it is a part that fails. -/
theorem readMembers_error {inner : α → Except SchemaError (Schema α)} {members : List (Text × α)}
    {e : SchemaError} (hi : ∀ raw e, inner raw = .error e → src.isObject raw)
    (h : readMembers src inner members = .error e) :
    ∃ child ∈ src.partsOf members, inner child = .error e := by
  unfold readMembers at h
  unfold partsOf
  cases hk : src.kind members with
  | leaf kind => simp [hk] at h
  | string => simp [hk] at h
  | array =>
    simp only [hk] at h
    cases hs : src.items? members with
    | none => simp [hs] at h
    | some items =>
      simp only [hs] at h
      exact ⟨items, by simp, map_eq_error.mp h⟩
  | object =>
    simp only [hk] at h
    obtain ⟨p, hp, hpe⟩ := readProperties_error (map_eq_error.mp h)
    exact ⟨p.2, List.mem_filter.mpr ⟨List.mem_map_of_mem hp, hi _ _ hpe⟩, hpe⟩

variable {limit : Int} {room depth : Nat} {enclosing : List Nat} {raw : α} {e : SchemaError}

theorem readAt_object {members : List (Text × α)} (hm : src.level raw = .object members) :
    readAt src limit room depth enclosing raw =
      if src.isEnclosed enclosing raw then .error (.cyclic depth)
      else match room with
        | 0 => .error (.tooDeep limit)
        | less + 1 => readMembers src
          (readAt src limit less (depth + 1) (src.enclose enclosing raw)) members := by
  cases room with
  | zero => rw [readAt, hm]
  | succ less => rw [readAt, hm]

theorem readAt_of_not_isObject (h : src.isObject raw = false) :
    readAt src limit room depth enclosing raw = .ok anything := by
  unfold readAt
  split
  · simp_all [isObject]
  · rfl

theorem isObject_of_readAt_error (h : readAt src limit room depth enclosing raw = .error e) :
    src.isObject raw := by
  cases ho : src.isObject raw with
  | true => rfl
  | false => rw [readAt_of_not_isObject ho] at h; cases h

/-- An object that is read lies inside none of those around it, and there was room for it and
for what its members are read as. -/
theorem readAt_ok_members {s : Schema α} {members : List (Text × α)}
    (hm : src.level raw = .object members) (h : readAt src limit room depth enclosing raw = .ok s) :
    src.isEnclosed enclosing raw = false ∧ ∃ less, room = less + 1 ∧
      readMembers src (readAt src limit less (depth + 1) (src.enclose enclosing raw)) members =
        .ok s := by
  rw [readAt_object hm] at h
  split at h
  · contradiction
  next hfresh =>
    cases room with
    | zero => cases h
    | succ less => exact ⟨by simpa using hfresh, less, rfl, h⟩

theorem readAt_ok {s : Schema α} (h : readAt src limit room depth enclosing raw = .ok s)
    (ho : src.isObject raw) :
    src.isEnclosed enclosing raw = false ∧ ∃ less, room = less + 1 ∧ ∀ child ∈ src.parts raw,
      ∃ s, readAt src limit less (depth + 1) (src.enclose enclosing raw) child = .ok s := by
  obtain ⟨members, hm⟩ := exists_members ho
  obtain ⟨hf, less, hl, hs⟩ := readAt_ok_members hm h
  refine ⟨hf, less, hl, ?_⟩
  intro child hc
  rw [parts, hm] at hc
  exact readMembers_ok hs hc

/-- A failure is a refusal of the object itself, as one that lies inside itself before one that
lies too deep, or else the failure of one of its parts. -/
theorem readAt_error (h : readAt src limit room depth enclosing raw = .error e) :
    src.isObject raw ∧
      (src.isEnclosed enclosing raw = true ∧ e = .cyclic depth ∨
        src.isEnclosed enclosing raw = false ∧
          (room = 0 ∧ e = .tooDeep limit ∨ ∃ less, room = less + 1 ∧ ∃ child ∈ src.parts raw,
            readAt src limit less (depth + 1) (src.enclose enclosing raw) child = .error e)) := by
  have ho := isObject_of_readAt_error h
  refine ⟨ho, ?_⟩
  obtain ⟨members, hm⟩ := exists_members ho
  rw [readAt_object hm] at h
  split at h
  next hcyclic => cases h; exact .inl ⟨hcyclic, rfl⟩
  next hfresh =>
    refine .inr ⟨by simpa using hfresh, ?_⟩
    cases room with
    | zero => cases h; exact .inl ⟨rfl, rfl⟩
    | succ less =>
      obtain ⟨child, hc, he⟩ := readMembers_error (fun _ _ => isObject_of_readAt_error) h
      exact .inr ⟨less, rfl, child, by rwa [parts, hm], he⟩

end Schema
end CatalogTypes
