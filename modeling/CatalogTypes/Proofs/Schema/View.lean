import CatalogTypes.Proofs.Schema.Reading

/-! # Reading through a view

One source is a view of another when a function takes each value to one that looks the same and
whose parts are the views of its parts. What can be read can then be read through the view, with
any more room and wherever it stands, as long as the view keeps no two objects the same.
-/
namespace CatalogTypes
variable {α β : Type}

def viewMembers (f : α → Option β) (members : List (Text × α)) : Option (List (Text × β)) :=
  members.mapM fun m => (f m.2).map (m.1, ·)

def Level.view? (f : α → Option β) : Level α → Option (Level β)
  | .object members => (viewMembers f members).map .object
  | .array items => (items.mapM f).map .array
  | .string s => some (.string s)
  | .other => some .other

/-- A function shows the values of one source as those of another, in which no object is met
twice. -/
structure Source.View (src : Source α) (dst : Source β) (f : α → Option β) : Prop where
  level {a : α} {b : β} (h : f a = some b) : (src.level a).view? f = some (dst.level b)
  apart (b : β) : dst.identity b = none

theorem viewMembers_cons {f : α → Option β} {name : Text} {a : α} {rest : List (Text × α)}
    {shown : List (Text × β)} (h : viewMembers f ((name, a) :: rest) = some shown) :
    ∃ b others, f a = some b ∧ viewMembers f rest = some others ∧ shown = (name, b) :: others := by
  simp only [viewMembers, List.mapM_cons, Option.bind_eq_bind, Option.bind_eq_some_iff,
    Option.map_eq_some_iff, Option.pure_def, Option.some.injEq] at h
  obtain ⟨_, ⟨b, hb, rfl⟩, others, ho, rfl⟩ := h
  exact ⟨b, others, hb, ho, rfl⟩

theorem mapM_cons_eq_some {f : α → Option β} {a : α} {rest : List α} {shown : List β}
    (h : (a :: rest).mapM f = some shown) :
    ∃ b others, f a = some b ∧ rest.mapM f = some others ∧ shown = b :: others := by
  simp only [List.mapM_cons, Option.bind_eq_bind, Option.bind_eq_some_iff, Option.pure_def,
    Option.some.injEq] at h
  obtain ⟨b, hb, others, ho, rfl⟩ := h
  exact ⟨b, others, hb, ho, rfl⟩

/-- A member is there on both sides, and shown by the view, or on neither. -/
theorem lookup_viewMembers {f : α → Option β} {members : List (Text × α)} {shown : List (Text × β)}
    (h : viewMembers f members = some shown) (name : Text) :
    (members.lookup name = none ∧ shown.lookup name = none) ∨
      ∃ a b, members.lookup name = some a ∧ shown.lookup name = some b ∧ f a = some b := by
  induction members generalizing shown with
  | nil => cases h; exact .inl ⟨rfl, rfl⟩
  | cons m rest ih =>
    obtain ⟨key, a⟩ := m
    obtain ⟨b, others, hb, ho, rfl⟩ := viewMembers_cons h
    simp only [List.lookup_cons]
    cases name == key with
    | true => exact .inr ⟨a, b, rfl, rfl, hb⟩
    | false => exact ih ho

namespace Source.View
variable {src : Source α} {dst : Source β} {f : α → Option β} (v : View src dst f)
include v

/-- A value and what is shown of it are of one kind. -/
theorem level_cases {a : α} {b : β} (h : f a = some b) :
    (∃ members shown, src.level a = .object members ∧ dst.level b = .object shown ∧
      viewMembers f members = some shown) ∨
    (∃ items shown, src.level a = .array items ∧ dst.level b = .array shown ∧
      items.mapM f = some shown) ∨
    (∃ t, src.level a = .string t ∧ dst.level b = .string t) ∨
    (src.level a = .other ∧ dst.level b = .other) := by
  have hl := v.level h
  cases ha : src.level a with
  | object members =>
    obtain ⟨shown, hs, hb⟩ := Option.map_eq_some_iff.mp (ha ▸ hl)
    exact .inl ⟨members, shown, rfl, hb.symm, hs⟩
  | array items =>
    obtain ⟨shown, hs, hb⟩ := Option.map_eq_some_iff.mp (ha ▸ hl)
    exact .inr (.inl ⟨items, shown, rfl, hb.symm, hs⟩)
  | string t =>
    rw [ha] at hl
    exact .inr (.inr (.inl ⟨t, rfl, (Option.some.inj hl).symm⟩))
  | other =>
    rw [ha] at hl
    exact .inr (.inr (.inr ⟨rfl, (Option.some.inj hl).symm⟩))

theorem members {a : α} {b : β} {members : List (Text × α)} (ha : src.level a = .object members)
    (h : f a = some b) :
    ∃ shown, dst.level b = .object shown ∧ viewMembers f members = some shown := by
  have hl := v.level h
  rw [ha] at hl
  obtain ⟨shown, hs, hb⟩ := Option.map_eq_some_iff.mp hl
  exact ⟨shown, hb.symm, hs⟩

theorem text?_eq {a : α} {b : β} (h : f a = some b) : dst.text? b = src.text? a := by
  rcases v.level_cases h with ⟨_, _, ha, hb, _⟩ | ⟨_, _, ha, hb, _⟩ | ⟨_, ha, hb⟩ | ⟨ha, hb⟩ <;>
    simp [text?, ha, hb]

theorem isObject_eq {a : α} {b : β} (h : f a = some b) : dst.isObject b = src.isObject a := by
  rcases v.level_cases h with ⟨_, _, ha, hb, _⟩ | ⟨_, _, ha, hb, _⟩ | ⟨_, ha, hb⟩ | ⟨ha, hb⟩ <;>
    simp [isObject, ha, hb]

theorem filterMap_text?_eq {items : List α} {shown : List β} (h : items.mapM f = some shown) :
    shown.filterMap dst.text? = items.filterMap src.text? := by
  induction items generalizing shown with
  | nil => cases h; rfl
  | cons a rest ih =>
    obtain ⟨b, others, hb, ho, rfl⟩ := mapM_cons_eq_some h
    simp only [List.filterMap_cons, v.text?_eq hb, ih ho]

section Members
variable {members : List (Text × α)} {shown : List (Text × β)}
  (h : viewMembers f members = some shown)
include h

theorem bind_text?_eq (name : Text) :
    (shown.lookup name).bind dst.text? = (members.lookup name).bind src.text? := by
  rcases lookup_viewMembers h name with ⟨hm, hs⟩ | ⟨a, b, hm, hs, hb⟩
  · simp [hm, hs]
  · simpa [hm, hs] using v.text?_eq hb

theorem caption_eq : dst.caption shown = src.caption members := by
  simp only [caption, v.bind_text?_eq h]

theorem kind_eq : dst.kind shown = src.kind members := by
  simp only [kind, v.bind_text?_eq h]

theorem choices_view : (src.choices members).mapM f = some (dst.choices shown) := by
  unfold choices
  rcases lookup_viewMembers h (text "enum") with ⟨hm, hs⟩ | ⟨a, b, hm, hs, hb⟩
  · simp [hm, hs]
  · rcases v.level_cases hb with ⟨_, _, ha, hb, _⟩ | ⟨_, _, ha, hb, hi⟩ | ⟨_, ha, hb⟩ | ⟨ha, hb⟩
    · simp [hm, hs, ha, hb]
    · simpa [hm, hs, ha, hb] using hi
    · simp [hm, hs, ha, hb]
    · simp [hm, hs, ha, hb]

theorem required_eq : dst.required shown = src.required members := by
  unfold required
  rcases lookup_viewMembers h (text "required") with ⟨hm, hs⟩ | ⟨a, b, hm, hs, hb⟩
  · simp [hm, hs]
  · rcases v.level_cases hb with ⟨_, _, ha, hb, _⟩ | ⟨_, _, ha, hb, hi⟩ | ⟨_, ha, hb⟩ | ⟨ha, hb⟩
    · simp [hm, hs, ha, hb]
    · simp [hm, hs, ha, hb, v.filterMap_text?_eq hi]
    · simp [hm, hs, ha, hb]
    · simp [hm, hs, ha, hb]

theorem properties_view : viewMembers f (src.properties members) = some (dst.properties shown) := by
  unfold properties
  rcases lookup_viewMembers h (text "properties") with ⟨hm, hs⟩ | ⟨a, b, hm, hs, hb⟩
  · simp [hm, hs, viewMembers]
  · rcases v.level_cases hb with ⟨_, _, ha, hb, hp⟩ | ⟨_, _, ha, hb, _⟩ | ⟨_, ha, hb⟩ | ⟨ha, hb⟩
    · simpa [hm, hs, ha, hb] using hp
    · simp [hm, hs, ha, hb, viewMembers]
    · simp [hm, hs, ha, hb, viewMembers]
    · simp [hm, hs, ha, hb, viewMembers]

/-- The items are an object on both sides, and shown by the view, or on neither. -/
theorem items?_view :
    (src.items? members = none ∧ dst.items? shown = none) ∨
      ∃ a b, src.items? members = some a ∧ dst.items? shown = some b ∧ f a = some b := by
  unfold items?
  rcases lookup_viewMembers h (text "items") with ⟨hm, hs⟩ | ⟨a, b, hm, hs, hb⟩
  · exact .inl ⟨by simp [hm], by simp [hs]⟩
  · have ho := v.isObject_eq hb
    cases ha : src.isObject a with
    | true => exact .inr ⟨a, b, by simp [hm, ha], by simp [hs, ho, ha], hb⟩
    | false => exact .inl ⟨by simp [hm, ha], by simp [hs, ho, ha]⟩

end Members
end Source.View

namespace Schema
open Source
variable {src : Source α} {dst : Source β} {f : α → Option β}

theorem readProperties_view {child : α → Except SchemaError (Schema α)}
    {other : β → Except SchemaError (Schema β)}
    (hc : ∀ a b s, child a = .ok s → f a = some b → ∃ t, other b = .ok t ∧ mapChoices? f s = some t)
    {properties : List (Text × α)} {shown : List (Text × β)} {ps : List (Text × Schema α)}
    (h : readProperties child properties = .ok ps) (hv : viewMembers f properties = some shown) :
    ∃ qs, readProperties other shown = .ok qs ∧ mapProperties? f ps = some qs := by
  induction properties generalizing shown ps with
  | nil => cases h; cases hv; exact ⟨[], rfl, rfl⟩
  | cons p rest ih =>
    obtain ⟨name, a⟩ := p
    obtain ⟨b, others, hb, ho, rfl⟩ := viewMembers_cons hv
    obtain ⟨s, ss, hs, hr, rfl⟩ := readProperties_cons_eq_ok.mp h
    obtain ⟨t, ht, hst⟩ := hc a b s hs hb
    obtain ⟨qs, hq, hsq⟩ := ih hr ho
    refine ⟨(name, t) :: qs, readProperties_cons_eq_ok.mpr ⟨t, qs, ht, hq, rfl⟩, ?_⟩
    simp [mapProperties?, hst, hsq]

theorem readMembers_view (v : src.View dst f) {inner : α → Except SchemaError (Schema α)}
    {other : β → Except SchemaError (Schema β)}
    (hc : ∀ a b s, inner a = .ok s → f a = some b → ∃ t, other b = .ok t ∧ mapChoices? f s = some t)
    {members : List (Text × α)} {shown : List (Text × β)} {s : Schema α}
    (h : readMembers src inner members = .ok s) (hv : viewMembers f members = some shown) :
    ∃ t, readMembers dst other shown = .ok t ∧ mapChoices? f s = some t := by
  simp only [readMembers, v.kind_eq hv, v.caption_eq hv, v.required_eq hv] at h ⊢
  cases hk : src.kind members with
  | leaf kind =>
    simp only [hk, Except.ok.injEq] at h
    exact ⟨_, rfl, by simp [← h, mapChoices?]⟩
  | string =>
    simp only [hk, Except.ok.injEq] at h
    exact ⟨_, rfl, by simp [← h, mapChoices?, v.choices_view hv]⟩
  | array =>
    simp only [hk] at h
    rcases v.items?_view hv with ⟨hi, hj⟩ | ⟨a, b, hi, hj, hb⟩
    · simp only [hi, Except.ok.injEq] at h
      exact ⟨.array (src.caption members) none, by simp only [hj], by simp [← h, mapChoices?]⟩
    · simp only [hi] at h
      obtain ⟨s, hs, rfl⟩ := map_eq_ok.mp h
      obtain ⟨t, ht, hst⟩ := hc a b s hs hb
      exact ⟨_, by simp only [hj, ht]; rfl, by simp [mapChoices?, hst]⟩
  | object =>
    simp only [hk] at h
    obtain ⟨ps, hp, rfl⟩ := map_eq_ok.mp h
    obtain ⟨qs, hq, hpq⟩ := readProperties_view hc hp (v.properties_view hv)
    exact ⟨_, by simp only [hq]; rfl, by simp [mapChoices?, hpq]⟩

/-- What was read is read through the view as well, with the same choices as they are shown. The
limit, the room and the enclosing objects that made it possible no longer matter. -/
theorem readAt_view (v : src.View dst f) {limit limit' : Int} {room room' depth depth' : Nat}
    {enclosing enclosing' : List Nat} {raw : α} {shown : β} {s : Schema α}
    (h : readAt src limit room depth enclosing raw = .ok s) (hv : f raw = some shown)
    (hr : room ≤ room') :
    ∃ t, readAt dst limit' room' depth' enclosing' shown = .ok t ∧ mapChoices? f s = some t := by
  induction room using Nat.strongRecOn generalizing room' depth depth' enclosing enclosing' raw shown s with
  | ind room ih =>
    cases ho : src.isObject raw with
    | false =>
      rw [readAt_of_not_isObject ho] at h
      cases h
      exact ⟨anything, readAt_of_not_isObject (by rw [v.isObject_eq hv, ho]), rfl⟩
    | true =>
      obtain ⟨members, hm⟩ := exists_members ho
      obtain ⟨others, hd, hvm⟩ := v.members hm hv
      obtain ⟨_, less, rfl, hs⟩ := readAt_ok_members hm h
      obtain ⟨more, rfl⟩ : ∃ more, room' = more + 1 := ⟨room' - 1, by omega⟩
      have hfresh : dst.isEnclosed enclosing' shown = false := by simp [isEnclosed, v.apart]
      rw [readAt_object hd, hfresh]
      exact readMembers_view v (fun a b s hs hb => ih less (by omega) hs hb (by omega)) hs hvm

theorem read_view (v : src.View dst f) {limit larger : Nat} {raw : α} {shown : β} {s : Schema α}
    (h : read src limit raw = .ok s) (hv : f raw = some shown) (hl : limit ≤ larger) :
    ∃ t, read dst larger shown = .ok t ∧ mapChoices? f s = some t :=
  readAt_view v h hv (by omega)

end Schema
end CatalogTypes
