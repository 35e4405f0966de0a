import Mathlib.Data.List.Induction
import CatalogTypes.Proofs.Catalog.Units
import CatalogTypes.Proofs.Generation.Memory
import CatalogTypes.Proofs.Package.Exports

/-! # Indexes in memory

An index is written after the files of its units, and the descriptor after both indexes. Nothing is
ever removed from a store, and what later takes the place of a unit's file is the file of a unit of
the same identifier. So wherever generation stops, no index names a file that is not there.
-/
namespace CatalogTypes
open Package Identifier

/-- A unit that the walk of some catalog makes. -/
def Walked (kind : CatalogKind) (u : TypeUnit) : Prop :=
  ∃ catalog units, (Walk.ofCatalog kind catalog).result = .ok units ∧ u ∈ units

variable {kind other : CatalogKind}

theorem Walked.wellFormed {u : TypeUnit} (h : Walked kind u) : WellFormed u.identifier := by
  obtain ⟨catalog, units, hw, hu⟩ := h
  exact Walk.wellFormed_identifier hw u hu

theorem walked_of_unitsIn {tree : FileTree} {p : Path} {units : List TypeUnit}
    (h : unitsIn tree kind p = .ok units) :
    ∀ u ∈ units, Walked kind u := by
  obtain ⟨catalog, _, hw⟩ := bind_eq_ok.mp h
  intro u hu
  exact ⟨catalog, units, mapError_eq_ok.mp hw, hu⟩

namespace Package
variable {held : List (Text × Text)}

def IsIndexName (name : Text) : Prop := name = indexName ∨ name = typesName

/-- What a package in a store promises: the files that an index names are there, files of units have
texts of units, and a descriptor has both indexes beside it. -/
structure Consistent (kind : CatalogKind) (held : List (Text × Text)) : Prop where
  exported {name : Text} (hn : IsIndexName name) {units : List TypeUnit}
    (hw : ∀ u ∈ units, Walked kind u) (h : held.lookup (pathOf kind.name name) =
      some (indexFile kind.name (units.map TypeUnit.exportLine)))
    {u : TypeUnit} (hu : u ∈ units) : (held.lookup (pathOf kind.name u.fileName)).isSome
  typed {u : TypeUnit} (hu : WellFormed u.identifier) (hi : u.identifier ≠ "index") {content : Text}
    (h : held.lookup (pathOf kind.name u.fileName) = some content) :
    ∃ v, Walked kind v ∧ v.identifier = u.identifier ∧ content = typeFile v
  described (h : (held.lookup (pathOf kind.name descriptorName)).isSome) {name : Text}
    (hn : IsIndexName name) :
    (held.lookup (pathOf kind.name name)).isSome

/-- The files that may be written to a package as it is. -/
inductive Allowed (kind : CatalogKind) (held : List (Text × Text)) : OutputFile → Prop where
  | unit {u : TypeUnit} (hu : Walked kind u) :
    Allowed kind held (fileAt kind.name u.fileName (typeFile u))
  | index {name : Text} (hn : IsIndexName name) {units : List TypeUnit}
    (hw : ∀ u ∈ units, Walked kind u)
    (h : ∀ u ∈ units, (held.lookup (pathOf kind.name u.fileName)).isSome) :
    Allowed kind held (fileAt kind.name name (indexFile kind.name (units.map TypeUnit.exportLine)))
  | descriptor (h : ∀ name, IsIndexName name → (held.lookup (pathOf kind.name name)).isSome) :
    Allowed kind held (fileAt kind.name descriptorName (descriptorFile kind.name))

theorem lookup_put_fileAt (package name written content : Text) (held : List (Text × Text)) :
    (Association.put (fileAt package written content).path (fileAt package written content).content
      held).lookup
        (pathOf package name) =
      if name = written then some content else held.lookup (pathOf package name) := by
  by_cases h : name = written
  · rw [if_pos h, h]
    exact Association.lookup_put _ _ _
  · rw [if_neg h]
    exact Association.lookup_put_of_ne (fun hp => h (pathOf_inj.mp hp)) _ _

theorem IsIndexName.ne_descriptorName {name : Text} (h : IsIndexName name) :
    name ≠ descriptorName := by
  rcases h with rfl | rfl
  · decide
  · decide

theorem not_isIndexName_fileName {u : TypeUnit} (hu : WellFormed u.identifier)
    (hi : u.identifier ≠ "index") :
    ¬ IsIndexName u.fileName := by
  rintro (h | h)
  · exact hi ((fileName_eq_indexName_iff hu).mp h)
  · exact fileName_ne_typesName hu h

theorem consistent_nil : Consistent kind [] where
  exported := fun _ _ _ h => nomatch h
  typed := fun _ _ _ h => nomatch h
  described := fun h => nomatch h

/-- A package keeps its promise when one of the allowed files is written. -/
theorem Consistent.put (h : Consistent kind held) {f : OutputFile} (ha : Allowed kind held f) :
    Consistent kind (Association.put f.path f.content held) := by
  cases ha with
  | @unit v hv =>
    refine ⟨?_, ?_, ?_⟩
    · intro name hn units hw hl u hu
      rw [lookup_put_fileAt] at hl
      split at hl
      · exact absurd (Option.some.inj hl) (typeFile_ne_indexFile kind.name v _)
      · exact isSome_lookup_put (h.exported hn hw hl hu) _ _
    · intro u hu hi content hl
      rw [lookup_put_fileAt] at hl
      split at hl
      next hname =>
        cases hl
        exact ⟨v, hv, (fileName_inj.mp hname).symm, rfl⟩
      · exact h.typed hu hi hl
    · intro hd name hn
      rw [lookup_put_fileAt, if_neg (fileName_ne_descriptorName hv.wellFormed).symm] at hd
      exact isSome_lookup_put (h.described hd hn) _ _
  | @index written hwritten others hothers hp =>
    refine ⟨?_, ?_, ?_⟩
    · intro name hn units hw hl u hu
      apply isSome_lookup_put
      rw [lookup_put_fileAt] at hl
      split at hl
      · have hi := identifiers_eq_of_indexFile_eq kind (fun v hv => (hw v hv).wellFormed)
          (fun v hv => (hothers v hv).wellFormed) (Option.some.inj hl).symm
        have hm : u.identifier ∈ others.map TypeUnit.identifier := hi ▸ List.mem_map_of_mem hu
        obtain ⟨v, hv, he⟩ := List.mem_map.mp hm
        rw [← fileName_inj.mpr he]
        exact hp v hv
      · exact h.exported hn hw hl hu
    · intro u hu hi content hl
      have hne : u.fileName ≠ written := fun he => not_isIndexName_fileName hu hi (he ▸ hwritten)
      rw [lookup_put_fileAt, if_neg hne] at hl
      exact h.typed hu hi hl
    · intro hd name hn
      rw [lookup_put_fileAt, if_neg hwritten.ne_descriptorName.symm] at hd
      exact isSome_lookup_put (h.described hd hn) _ _
  | descriptor hp =>
    refine ⟨?_, ?_, ?_⟩
    · intro name hn units hw hl u hu
      rw [lookup_put_fileAt, if_neg hn.ne_descriptorName] at hl
      exact isSome_lookup_put (h.exported hn hw hl hu) _ _
    · intro u hu hi content hl
      rw [lookup_put_fileAt, if_neg (fileName_ne_descriptorName hu)] at hl
      exact h.typed hu hi hl
    · intro _ name hn
      exact isSome_lookup_put (hp name hn) _ _

/-- It keeps its promise after any number of files, each of which is allowed after those before
it. -/
theorem Consistent.putAll (h : Consistent kind held) {output : List OutputFile}
    (ha : ∀ front f back, output = front ++ f :: back → Allowed kind (stored front held) f) :
    Consistent kind (stored output held) := by
  induction output using List.reverseRecOn with
  | nil => exact h
  | append_singleton output f ih =>
    have hinit : Consistent kind (stored output held) := by
      apply ih
      intro front g back he
      exact ha front g (back ++ [f]) (by rw [he, List.append_assoc, List.cons_append])
    rw [stored_append]
    exact hinit.put (ha output f [] rfl)

section Order
variable {units : List TypeUnit} (hw : ∀ u ∈ units, Walked kind u) {front back : List OutputFile}
  {f : OutputFile}
include hw

/-- What describes a package may be written once the files of its units are there. -/
theorem allowed_of_packageFiles (held : List (Text × Text))
    (h : packageFiles kind.name units = front ++ f :: back) :
    Allowed kind (stored (unitFiles kind.name units ++ front) held) f := by
  have hthere {output : List OutputFile} {name content : Text}
      (hf : fileAt kind.name name content ∈ output) :
      ((stored output held).lookup (pathOf kind.name name)).isSome :=
    isSome_lookup_stored_of_mem hf held
  have hunits (rest : List OutputFile) : ∀ u ∈ units,
      ((stored (unitFiles kind.name units ++ rest) held).lookup
        (pathOf kind.name u.fileName)).isSome :=
    fun u hu => hthere (List.mem_append_left _ (List.mem_map_of_mem hu))
  rcases front with _ | ⟨index, _ | ⟨types, _ | ⟨descriptor, front⟩⟩⟩
  · cases h
    exact .index (.inl rfl) hw (hunits _)
  · cases h
    exact .index (.inr rfl) hw (hunits _)
  · cases h
    refine .descriptor ?_
    rintro name (rfl | rfl)
    · exact hthere (List.mem_append_right _ List.mem_cons_self)
    · exact hthere (List.mem_append_right _ (List.mem_cons_of_mem _ List.mem_cons_self))
  · have hl := congrArg List.length h
    simp [packageFiles] at hl

/-- The files of a package are in an order in which each is allowed. -/
theorem allowed_of_files (held : List (Text × Text))
    (h : files kind.name units = front ++ f :: back) :
    Allowed kind (stored front held) f := by
  have hn : units ≠ [] := by
    rintro rfl
    exact List.append_ne_nil_of_right_ne_nil front (List.cons_ne_nil f back) h.symm
  rw [files_eq kind.name hn] at h
  rcases List.append_eq_append_iff.mp h with ⟨rest, rfl, hrest⟩ | ⟨rest, hfront, hrest⟩
  · exact allowed_of_packageFiles hw held hrest
  · cases rest with
    | nil =>
      have hall : Allowed kind (stored (unitFiles kind.name units ++ []) held) f :=
        allowed_of_packageFiles hw held hrest.symm
      rw [List.append_nil] at hall
      rw [List.append_nil] at hfront
      rw [← hfront]
      exact hall
    | cons g rest =>
      cases hrest
      have hf : f ∈ unitFiles kind.name units := hfront ▸ List.mem_append_right _ List.mem_cons_self
      obtain ⟨u, hu, rfl⟩ := List.mem_map.mp hf
      exact .unit (hw u hu)

/-- Wherever the files of a package end, the package keeps its promise. -/
theorem Consistent.putPrefix {held : List (Text × Text)} (h : Consistent kind held)
    (hp : front <+: files kind.name units) : Consistent kind (stored front held) := by
  apply h.putAll
  intro before g after hfront
  obtain ⟨rest, hrest⟩ := hp
  have hfiles : files kind.name units = before ++ g :: (after ++ rest) := by
    rw [← hrest, hfront, List.append_assoc, List.cons_append]
  exact allowed_of_files hw held hfiles

end Order

/-- What is written to one package makes no difference to another one. -/
theorem Consistent.of_other (hne : kind ≠ other) (h : Consistent kind held)
    {output : List OutputFile} (ho : ∀ f ∈ output, ∃ name, f.path = pathOf other.name name) :
    Consistent kind (stored output held) := by
  have hl (name : Text) :
      (stored output held).lookup (pathOf kind.name name) =
        held.lookup (pathOf kind.name name) := by
    apply lookup_stored_of_not_mem
    intro f hf
    obtain ⟨written, hwritten⟩ := ho f hf
    rw [hwritten]
    exact pathOf_ne hne name written
  refine ⟨?_, ?_, ?_⟩
  · intro name hn units hw hindex u hu
    rw [hl] at hindex ⊢
    exact h.exported hn hw hindex hu
  · intro u hu hi content hc
    rw [hl] at hc
    exact h.typed hu hi hc
  · intro hd name hn
    rw [hl] at hd ⊢
    exact h.described hd hn

/-- All packages of a store keep their promises when a part of one of them is written. -/
theorem consistent_putPrefix (h : ∀ kind, Consistent kind held) {units : List TypeUnit}
    (hw : ∀ u ∈ units, Walked other u) {output : List OutputFile}
    (hp : output <+: files other.name units) (kind : CatalogKind) :
    Consistent kind (stored output held) := by
  by_cases hk : kind = other
  · rw [hk]
    exact (h other).putPrefix hw hp
  · apply (h kind).of_other hk
    intro f hf
    obtain ⟨name, _, hname⟩ := exists_name_of_mem_files (hp.subset hf)
    exact ⟨name, hname⟩

end Package

namespace Generator

/-- The worlds that come about as packages are generated in a store that is empty at first. The
world may change meanwhile in any way that leaves the files of the store alone, and a generation may
be interrupted after any of its files. -/
inductive Reached : World → Prop where
  | empty {w : World} (h : w.memory.files = []) : Reached w
  | change {w next : World} (h : Reached w) (hf : next.memory.files = w.memory.files) : Reached next
  | run {w : World} (h : Reached w) (source : Path) (kind : CatalogKind) :
    Reached (((inMemory source).generate kind).result w).2
  | interruption {w : World} (h : Reached w) {source : Path} {kind : CatalogKind}
    {units : List TypeUnit} (hu : unitsFor source kind w.files = .ok units)
    {output : List OutputFile} (hp : output <+: files kind.name units) :
    Reached ((prepare .memory kind.name >>= fun _ => writeAll .memory output).result w).2

theorem exists_prefix_contribution (source : Path) (kind : CatalogKind) (tree : FileTree)
    (readOnly : List Text) :
    ∃ units, (∀ u ∈ units, Walked kind u) ∧
      contribution kind readOnly (unitsFor source kind tree) <+: files kind.name units := by
  cases hu : unitsFor source kind tree with
  | error e => exact ⟨[], by simp, List.nil_prefix⟩
  | ok units => exact ⟨units, walked_of_unitsIn hu, List.takeWhile_prefix _⟩

theorem files_of_interruption {w : World} {kind : CatalogKind} {units : List TypeUnit}
    (hi : ∀ u ∈ units, WellFormed u.identifier) {output : List OutputFile}
    (hp : output <+: files kind.name units) :
    ((prepare .memory kind.name >>= fun _ => writeAll .memory output).result w).2.memory.files =
      stored (accepted w.memory.readOnly output) w.memory.files := by
  have hw := result_writeAll_memory (w := { w with memory := prepared kind.name w.memory })
    fun f hf => parent_mem_directories hi (hp.subset hf) w.memory
  have hprepare : (prepare .memory kind.name).result w =
      (.ok (), { w with memory := prepared kind.name w.memory }) := rfl
  rw [Run.result_bind, hprepare]
  simp only [hw]
  rfl

theorem Reached.consistent {w : World} (h : Reached w) :
    ∀ kind, Consistent kind w.memory.files := by
  induction h with
  | empty h =>
    intro kind
    rw [h]
    exact consistent_nil
  | change _ hf ih => rwa [hf]
  | @run w _ source kind ih =>
    obtain ⟨units, hw, hp⟩ := exists_prefix_contribution source kind w.files w.memory.readOnly
    rw [files_generate_memory]
    exact consistent_putPrefix ih hw hp
  | @interruption w _ source kind units hu output hp ih =>
    rw [files_of_interruption (wellFormed_of_unitsIn hu) hp]
    exact consistent_putPrefix ih (walked_of_unitsIn hu) ((List.takeWhile_prefix _).trans hp)

/-- A catalog that gives no units: it cannot be read, has a schema that is refused, or has none. -/
inductive Fruitless (source : Path) (kind : CatalogKind) (tree : FileTree) : Prop where
  | unreadable {e : Failure} (h : Catalog.load tree ((inMemory source).catalogPath kind) = .error e)
  | refused {catalog : List Json}
    (h : Catalog.load tree ((inMemory source).catalogPath kind) = .ok catalog) {o : Occurrence}
    (ho : o ∈ kind.occurrences catalog) (hr : ¬ o.Accepted)
  | empty {catalog : List Json}
    (h : Catalog.load tree ((inMemory source).catalogPath kind) = .ok catalog)
    (hu : (Walk.ofCatalog kind catalog).result = .ok [])

theorem eq_nil_of_fruitless {source : Path} {kind : CatalogKind} {tree : FileTree}
    (h : Fruitless source kind tree) {units : List TypeUnit}
    (hu : unitsFor source kind tree = .ok units) : units = [] := by
  obtain ⟨catalog, hl, hw⟩ := bind_eq_ok.mp hu
  have hwalk := mapError_eq_ok.mp hw
  cases h with
  | unreadable he => cases hl.symm.trans he
  | refused he ho hr =>
    cases hl.symm.trans he
    exact absurd (Walk.accepted_of_result hwalk _ ho) hr
  | empty he hn =>
    cases hl.symm.trans he
    cases hwalk.symm.trans hn
    rfl

theorem result_generate_of_fruitless {source : Path} {kind : CatalogKind} {w : World}
    (h : Fruitless source kind w.files) : ∃ next, ((inMemory source).generate kind).result w =
      (.ok 0, next) ∧
      next.memory.files = w.memory.files ∧ next.files = w.files := by
  obtain ⟨log, hr⟩ := result_generate_memory source kind w
  have hn : countIn kind w.memory.readOnly (unitsFor source kind w.files) = 0 ∧
      contribution kind w.memory.readOnly (unitsFor source kind w.files) = [] := by
    cases hu : unitsFor source kind w.files with
    | error e => exact ⟨rfl, rfl⟩
    | ok units =>
      cases eq_nil_of_fruitless h hu
      exact ⟨rfl, rfl⟩
  rw [hn.1] at hr
  refine ⟨_, hr, ?_, rfl⟩
  simp only [storeAfter, hn.2]
  rfl

/-- However generation was interrupted or refused, the file of each unit that an index of a package
names is there, and but for one that is named like the index it has the text of a unit of this
identifier. A descriptor has both indexes beside it. A catalog that gives no units counts as zero
types, and every file of the store stays as it was. -/
theorem index_names_files :
    (∀ w, Reached w → ∀ kind : CatalogKind,
      (∀ name (units : List TypeUnit), IsIndexName name → (∀ u ∈ units, Walked kind u) →
        w.memory.read (pathOf kind.name name) =
          .ok (indexFile kind.name (units.map TypeUnit.exportLine)) →
        ∀ u ∈ units, ∃ content, w.memory.read (pathOf kind.name u.fileName) = .ok content ∧
          (u.identifier ≠ "index" → ∃ v, Walked kind v ∧ v.identifier = u.identifier ∧
            content = typeFile v)) ∧
      ∀ descriptor, w.memory.read (pathOf kind.name descriptorName) = .ok descriptor →
        ∀ name, IsIndexName name →
        ∃ index, w.memory.read (pathOf kind.name name) = .ok index) ∧
    ∀ source kind w, Fruitless source kind w.files → ∃ next,
      ((inMemory source).generate kind).result w = (.ok 0, next) ∧
        next.memory.files = w.memory.files ∧ next.files = w.files := by
  refine ⟨?_, fun source kind w h => result_generate_of_fruitless h⟩
  intro w hr kind
  have h := hr.consistent kind
  constructor
  · intro name units hn hw hindex u hu
    obtain ⟨content, hc⟩ :=
      Option.isSome_iff_exists.mp (h.exported hn hw (Memory.read_eq_ok_iff.mp hindex) hu)
    exact ⟨content, Memory.read_eq_ok_iff.mpr hc, fun hi => h.typed (hw u hu).wellFormed hi hc⟩
  · intro descriptor hd name hn
    have hsome := Option.isSome_of_eq_some (Memory.read_eq_ok_iff.mp hd)
    obtain ⟨index, hi⟩ := Option.isSome_iff_exists.mp (h.described hsome hn)
    exact ⟨index, Memory.read_eq_ok_iff.mpr hi⟩

def heroWorld : World :=
  { World.empty with
    files := ⟨[([CatalogKind.sections.fileName],
      .file (Utf8.encodeAll "[\x7b\"name\":\"Hero\",\"schema\":\x7b\"type\":\"string\"\x7d\x7d]"))],
        []⟩ }

theorem index_names_files_hero : ∃ w, Reached w ∧
    w.memory.read (pathOf CatalogKind.sections.name indexName) =
      .ok (indexFile CatalogKind.sections.name [(stringUnit "Hero").exportLine]) ∧
    ∃ v, Walked .sections v ∧ v.identifier = "Hero" ∧
      w.memory.read (pathOf CatalogKind.sections.name "Hero.ts") = .ok (typeFile v) := by
  have hu : unitsFor Path.here .sections heroWorld.files = .ok [stringUnit "Hero"] :=
    eq_ok_of_toOption (by decide +kernel)
  have hw : ∀ u ∈ [stringUnit "Hero"], Walked .sections u := walked_of_unitsIn hu
  let w := (((inMemory Path.here).generate .sections).result heroWorld).2
  have hr : Reached w := .run (.empty rfl) Path.here .sections
  have hi : w.memory.read (pathOf CatalogKind.sections.name indexName) =
      .ok (indexFile CatalogKind.sections.name [(stringUnit "Hero").exportLine]) := by
    have hwritable : heroWorld.memory.readOnly = [] := rfl
    rw [Memory.read_eq_ok_iff, files_generate_memory, hu, contribution, hwritable, accepted_nil]
    exact lookup_stored_index CatalogKind.sections.name [] (List.cons_ne_nil (stringUnit "Hero") [])
  obtain ⟨content, hc, ht⟩ :=
    (index_names_files.1 w hr .sections).1 _ _ (.inl rfl) hw hi _ List.mem_cons_self
  obtain ⟨v, hv, he, rfl⟩ := ht (by decide)
  exact ⟨w, hr, hi, v, hv, he, hc⟩

end Generator
end CatalogTypes
