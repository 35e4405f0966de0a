import CatalogTypes.Proofs.Catalog.Places
import CatalogTypes.Proofs.Catalog.Walk

/-! # Catalogs that grow

Whatever is put behind the entries of a catalog comes after all schemas that were there, and so does
what is put behind the entries of its last record or of the last set in it. A walk takes schemas in
their order, so that it begins as it did before the catalog grew: no unit changes, and a schema that
was refused is refused in the same way.
-/
namespace CatalogTypes
open Identifier

namespace Walk

/-- A walk that is followed by another one, unless it was refused. -/
def andThen (w later : Walk) : Walk :=
  match w.result with
  | .error _ => w
  | .ok units => ⟨w.events ++ later.events, later.result.map (units ++ ·)⟩

theorem ofOccurrences_andThen (pool : Pool) (front back : List Occurrence) :
    ofOccurrences pool (front ++ back) =
      (ofOccurrences pool front).andThen
        (ofOccurrences (pool.after (front.map Occurrence.name)) back) := by
  induction front generalizing pool with
  | nil =>
    have hmap : (ofOccurrences pool back).result = (ofOccurrences pool back).result.map ([] ++ ·) :=
      (congrFun Except.map_id (ofOccurrences pool back).result).symm
    exact congrArg (Walk.mk (ofOccurrences pool back).events) hmap
  | cons o front ih =>
    rw [List.cons_append, ofOccurrences, ofOccurrences]
    cases hs : Schema.ofJson o.schema with
    | error e => rfl
    | ok s =>
      simp only [ih, List.map_cons, Pool.after]
      cases hf : (ofOccurrences (pool.assign o.name).2 front).result with
      | error e => simp [andThen, hf, Except.map]
      | ok units =>
        simp only [andThen, hf, Except.map, List.cons_append]
        cases (ofOccurrences _ back).result <;> rfl

/-- One walk is the beginning of another. If the longer one gives units, then the first of them are
those of the shorter one, and a refusal in the shorter one is the end of both. -/
structure Begins (w longer : Walk) : Prop where
  units {units : List TypeUnit} (h : longer.result = .ok units) : ∃ first, w.result = .ok first ∧
    first <+: units
  error {e : SchemaError} (h : w.result = .error e) : longer.result = .error e ∧
    longer.seen = w.seen
  seen : w.seen <+: longer.seen

theorem begins_andThen (w later : Walk) : Begins w (w.andThen later) := by
  cases hw : w.result with
  | error e =>
    have hsame : w.andThen later = w := by rw [andThen, hw]
    rw [hsame]
    refine ⟨?_, fun h => ⟨h, rfl⟩, List.prefix_rfl⟩
    intro units h
    cases hw.symm.trans h
  | ok first =>
    have hlonger : w.andThen later = ⟨w.events ++ later.events, later.result.map (first ++ ·)⟩ := by
      rw [andThen, hw]
    rw [hlonger]
    refine ⟨?_, ?_, ?_⟩
    · intro units h
      obtain ⟨more, _, rfl⟩ := map_eq_ok.mp h
      exact ⟨first, hw, List.prefix_append first more⟩
    · intro e h
      cases hw.symm.trans h
    · rw [seen, seen, List.filterMap_append]
      exact List.prefix_append _ _

/-- More occurrences behind those of a walk only make it longer. -/
theorem begins_of_prefix {pool : Pool} {occurrences longer : List Occurrence}
    (h : occurrences <+: longer) :
    Begins (ofOccurrences pool occurrences) (ofOccurrences pool longer) := by
  obtain ⟨more, rfl⟩ := h
  rw [ofOccurrences_andThen]
  exact begins_andThen _ _

end Walk

namespace Occurrence

/-- Entries grow behind the last of them, or within the last record among them. -/
inductive Grown (grow : Json → Json → Prop) : List Json → List Json → Prop where
  | behind (entries more : List Json) : Grown grow entries (entries ++ more)
  | within {front rest : List Json} {record longer : Json} (h : grow record longer)
    (hrest : ∀ entry ∈ rest, entry.isObject = false) :
    Grown grow (front ++ record :: rest) (front ++ longer :: rest)

/-- A record in which the entries of one array grow, and nothing else changes. -/
structure GrownAt (name : Text) (grow : List Json → List Json → Prop) (record longer : Json) :
    Prop where
  entries : ∃ old new, record.member? name = some (.array old) ∧
    longer.member? name = some (.array new) ∧ grow old new
  others {other : Text} (h : other ≠ name) : longer.member? other = record.member? other

def GrownSet : Json → Json → Prop := GrownAt (text "configurations") (· <+: ·)

/-- A content type to which sets were appended, or configurations to its last set. -/
def GrownContentType : Json → Json → Prop :=
  GrownAt (text "configurationSchemaSets") (Grown GrownSet)

section Growth
variable {name : Text} {grow : List Json → List Json → Prop} {record longer : Json}

theorem GrownAt.entriesOf (h : GrownAt name grow record longer) :
    grow (entriesOf name record) (Occurrence.entriesOf name longer) := by
  obtain ⟨old, new, hold, hnew, hgrow⟩ := h.entries
  rw [Occurrence.entriesOf, Occurrence.entriesOf, hold, hnew]
  exact hgrow

theorem GrownAt.displayName (h : GrownAt name grow record longer) (hname : text "name" ≠ name) :
    displayName longer = displayName record := by
  rw [Occurrence.displayName, Occurrence.displayName, h.others hname]

/-- What the entries hold grows with them, for what is no record holds nothing. -/
theorem Grown.flatMap {β : Type} {grow : Json → Json → Prop} {g : Json → List β}
    {entries longer : List Json} (hg : ∀ {record longer}, grow record longer →
      g record <+: g longer) (hnone : ∀ a, a.isObject = false → g a = [])
    (h : Grown grow entries longer) : entries.flatMap g <+: longer.flatMap g := by
  cases h with
  | behind _ more =>
    rw [List.flatMap_append]
    exact List.prefix_append _ _
  | @within front rest record longer hr hrest =>
    have hempty : rest.flatMap g = [] :=
      List.flatMap_eq_nil_iff.mpr fun a ha => hnone a (hrest a ha)
    simp only [List.flatMap_append, List.flatMap_cons, hempty, List.append_nil]
    exact (List.prefix_append_right_inj _).mpr (hg hr)

end Growth

def inSet (contentType set : Json) : List Occurrence :=
  (entriesOf (text "configurations") set).flatMap fun configuration =>
    (ofConfiguration? contentType set configuration).toList

def inContentType (contentType : Json) : List Occurrence :=
  (entriesOf (text "configurationSchemaSets") contentType).flatMap (inSet contentType)

section None
variable {a : Json} (h : a.isObject = false)
include h

theorem entriesOf_of_not_isObject (name : Text) : entriesOf name a = [] := by
  rw [entriesOf, member?_of_not_isObject h]

theorem ofConfiguration?_of_not_isObject (contentType set : Json) :
    ofConfiguration? contentType set a = none := by
  rw [ofConfiguration?, ofEntry?, member?_of_not_isObject h]
  rfl

theorem inSet_of_not_isObject (contentType : Json) : inSet contentType a = [] := by
  rw [inSet, entriesOf_of_not_isObject h, List.flatMap_nil]

theorem inContentType_of_not_isObject : inContentType a = [] := by
  rw [inContentType, entriesOf_of_not_isObject h, List.flatMap_nil]

end None

theorem inContentTypes_eq (catalog : List Json) :
    inContentTypes catalog = catalog.flatMap inContentType := by
  have hset (contentType set : Json) :
      (nested (text "configurations") set).filterMap (ofConfiguration? contentType set) =
        inSet contentType set := by
    rw [nested_eq, List.filterMap_eq_flatMap_toList, flatMap_filter_isObject, inSet]
    intro a ha
    rw [ofConfiguration?_of_not_isObject ha]
    rfl
  have hcontentType (contentType : Json) :
      ((nested (text "configurationSchemaSets") contentType).flatMap fun set =>
        (nested (text "configurations") set).filterMap (ofConfiguration? contentType set)) =
          inContentType contentType := by
    simp only [hset]
    rw [nested_eq, flatMap_filter_isObject fun a ha => inSet_of_not_isObject ha contentType,
      inContentType]
  change ((catalog.filter Json.isObject).flatMap fun contentType =>
    (nested (text "configurationSchemaSets") contentType).flatMap fun set =>
      (nested (text "configurations") set).filterMap (ofConfiguration? contentType set)) = _
  simp only [hcontentType]
  exact flatMap_filter_isObject (fun _ ha => inContentType_of_not_isObject ha) catalog

section Prefix
variable {record longer : Json}

theorem GrownSet.prefix_inSet (h : GrownSet record longer) {contentType other : Json}
    (hname : displayName other = displayName contentType) :
    inSet contentType record <+: inSet other longer := by
  have hset : displayName longer = displayName record := GrownAt.displayName h (by decide)
  have hsame : ofConfiguration? other longer = ofConfiguration? contentType record := by
    funext configuration
    rw [ofConfiguration?, ofConfiguration?, hname, hset]
  obtain ⟨more, hmore⟩ := GrownAt.entriesOf h
  rw [inSet, inSet, hsame, ← hmore, List.flatMap_append]
  exact List.prefix_append _ _

theorem inSet_congr {contentType other : Json} (hname : displayName other = displayName contentType)
    (set : Json) :
    inSet other set = inSet contentType set := by
  simp only [inSet, ofConfiguration?, hname]

theorem GrownContentType.prefix_inContentType (h : GrownContentType record longer) :
    inContentType record <+: inContentType longer := by
  have hname : displayName longer = displayName record := GrownAt.displayName h (by decide)
  rw [inContentType, inContentType, funext (inSet_congr hname)]
  exact Grown.flatMap (fun hs => GrownSet.prefix_inSet hs rfl)
    (fun _ ha => inSet_of_not_isObject ha record)
    (GrownAt.entriesOf h)

end Prefix

theorem prefix_inContentTypes {catalog longer : List Json}
    (h : Grown GrownContentType catalog longer) :
    inContentTypes catalog <+: inContentTypes longer := by
  rw [inContentTypes_eq, inContentTypes_eq]
  exact h.flatMap GrownContentType.prefix_inContentType fun _ ha => inContentType_of_not_isObject ha

/-- Sections keep their positions when others come behind them. -/
theorem prefix_inSections (catalog more : List Json) :
    inSections catalog <+: inSections (catalog ++ more) := by
  rw [inSections, inSections, List.zipIdx_append, List.filterMap_append]
  exact List.prefix_append _ _

theorem prefix_occurrences (kind : CatalogKind) (catalog more : List Json) :
    kind.occurrences catalog <+: kind.occurrences (catalog ++ more) := by
  cases kind with
  | contentTypes => exact prefix_inContentTypes (.behind catalog more)
  | sections => exact prefix_inSections catalog more

end Occurrence

namespace Walk
open Occurrence

/-- A walk begins as it did before its catalog grew, be it by further entries, by sets in its last
record or by configurations in the last set of this record. -/
theorem begins_of_growth :
    (∀ (kind : CatalogKind) (catalog more : List Json),
      Begins (ofCatalog kind catalog) (ofCatalog kind (catalog ++ more))) ∧
    ∀ catalog longer : List Json, Grown GrownContentType catalog longer →
      Begins (ofCatalog .contentTypes catalog) (ofCatalog .contentTypes longer) :=
  ⟨fun kind catalog more => begins_of_prefix (prefix_occurrences kind catalog more),
    fun _ _ h => begins_of_prefix (prefix_inContentTypes h)⟩

def pageCatalog (configurations : List Json) : List Json :=
  [.object [("name", .string "Page"), ("configurationSchemaSets", .array
    [.object [("name", .string "Seo"), ("configurations", .array configurations)]])]]

def metaConfiguration : Json :=
  .object [("name", .string "Meta"), ("schema", .object [("type", .string "string")])]

theorem grown_pageCatalog (configurations more : List Json) :
    Grown GrownContentType (pageCatalog configurations) (pageCatalog (configurations ++ more)) := by
  have hothers {name other : Text} (hn : text "name" ≠ name) (hother : other ≠ name)
      (title value new : Json) :
      Json.member? other (.object [("name", title), (name, new)]) =
        Json.member? other (.object [("name", title), (name, value)]) := by
    have hb : (other == name) = false := by simpa using hother
    simp [Json.member?, List.lookup_cons, hb]
  have hlast {grow : Json → Json → Prop} {record longer : Json} (h : grow record longer) :
      Grown grow [record] [longer] :=
    @Grown.within grow [] [] record longer h (List.forall_mem_nil _)
  refine hlast ⟨⟨_, _, rfl, rfl, hlast ?_⟩, fun h => hothers (by decide) h _ _ _⟩
  exact ⟨⟨_, _, rfl, rfl, List.prefix_append configurations more⟩, fun h =>
    hothers (by decide) h _ _ _⟩

theorem begins_of_growth_pages :
    Grown GrownContentType (pageCatalog [metaConfiguration])
      (pageCatalog [metaConfiguration, metaConfiguration]) ∧
    ∃ first units, (ofCatalog .contentTypes (pageCatalog [metaConfiguration])).result = .ok first ∧
      (ofCatalog .contentTypes (pageCatalog [metaConfiguration, metaConfiguration])).result =
        .ok units ∧
      first <+: units ∧ units.map TypeUnit.identifier =
        [text "PageSeoMeta", text "PageSeoMeta2"] := by
  have hgrown := grown_pageCatalog [metaConfiguration] [metaConfiguration]
  have hok : (ofCatalog .contentTypes
        (pageCatalog [metaConfiguration, metaConfiguration])).result.isOk := by
    decide +kernel
  cases hw : (ofCatalog .contentTypes
      (pageCatalog [metaConfiguration, metaConfiguration])).result with
  | error e =>
    rw [hw] at hok
    cases hok
  | ok units =>
    obtain ⟨first, hfirst, hprefix⟩ := (begins_of_growth.2 _ _ hgrown).units hw
    refine ⟨hgrown, first, units, hfirst, rfl, hprefix, ?_⟩
    rw [identifiers_eq hw]
    decide +kernel

end Walk
end CatalogTypes
