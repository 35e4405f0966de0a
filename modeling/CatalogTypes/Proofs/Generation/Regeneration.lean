import Mathlib.Tactic.Choose
import CatalogTypes.Proofs.Generation.Memory

/-! # Generating again

What a run of catalogs leaves in a store is settled: a second run of the same catalogs meets each
refusal at the same file again, and every file and directory stays as the first run left it. Whether
the first run came to its end makes no difference.
-/
namespace CatalogTypes
open Package FileTree

theorem unitsIn_of_readBytes {tree other : FileTree} {kind : CatalogKind} {p : Path}
    (h : tree.readBytes p = other.readBytes p) : unitsIn tree kind p = unitsIn other kind p := by
  rw [unitsIn, unitsIn, Catalog.load, Catalog.load, Catalog.readJson, Catalog.readJson, readText,
    readText, h]

namespace Generator

section Directories
variable {kind : CatalogKind} {m : Memory} {found : Except Failure (List TypeUnit)}

/-- A package that is written needs its directory and that of all packages. -/
def Needed (kind : CatalogKind) (found : Except Failure (List TypeUnit)) (d : Text) : Prop :=
  (∃ units, found = .ok units) ∧
    (d ∈ Memory.withAncestors (.ofText (fullName kind.name)) ∨
      d ∈ Memory.withAncestors (.ofText scope))

theorem directoriesIn_of_needed (h : ∀ d, Needed kind found d → d ∈ m.directories) :
    directoriesIn kind m found = m.directories := by
  cases found with
  | error e => rfl
  | ok units =>
    have hscope : m.ensureDirectory scope = m :=
      Memory.ensureDirectory_of_mem fun d hd => h d ⟨⟨units, rfl⟩, .inr hd⟩
    have hpackage : m.ensureDirectory (fullName kind.name) = m :=
      Memory.ensureDirectory_of_mem fun d hd => h d ⟨⟨units, rfl⟩, .inl hd⟩
    rw [directoriesIn, prepared, hscope, hpackage]

end Directories

section Runs
variable (source : Path) (tree : FileTree)

def storeAfterAll (kinds : List CatalogKind) (m : Memory) : Memory :=
  kinds.foldl (fun m kind => storeAfter source kind tree m) m

variable {source tree}

theorem storeAfterAll_cons (kind : CatalogKind) (kinds : List CatalogKind) (m : Memory) :
    storeAfterAll source tree (kind :: kinds) m =
      storeAfterAll source tree kinds (storeAfter source kind tree m) :=
  List.foldl_cons ..

theorem readOnly_storeAfterAll (kinds : List CatalogKind) (m : Memory) :
    (storeAfterAll source tree kinds m).readOnly = m.readOnly := by
  induction kinds generalizing m with
  | nil => rfl
  | cons kind kinds ih => exact ih _

/-- What several catalogs contribute is one list of files. -/
theorem files_storeAfterAll (kinds : List CatalogKind) (m : Memory) :
    (storeAfterAll source tree kinds m).files =
      stored (kinds.flatMap fun kind => contribution kind m.readOnly (unitsFor source kind tree))
        m.files := by
  induction kinds generalizing m with
  | nil => rfl
  | cons kind kinds ih =>
    rw [storeAfterAll_cons, ih, List.flatMap_cons, stored_append]
    rfl

theorem mem_directories_storeAfterAll {kinds : List CatalogKind} {m : Memory} {d : Text} :
    d ∈ (storeAfterAll source tree kinds m).directories ↔
      (∃ kind ∈ kinds, Needed kind (unitsFor source kind tree) d) ∨ d ∈ m.directories := by
  induction kinds generalizing m with
  | nil => simp [storeAfterAll]
  | cons kind kinds ih =>
    have hfirst : d ∈ (storeAfter source kind tree m).directories ↔
        Needed kind (unitsFor source kind tree) d ∨ d ∈ m.directories := mem_directoriesIn kind
    rw [storeAfterAll_cons, ih, hfirst]
    simp only [List.mem_cons, exists_eq_or_imp, or_assoc]
    exact or_left_comm

theorem directories_storeAfterAll {kinds : List CatalogKind} {m : Memory}
    (h : ∀ kind ∈ kinds, ∀ d, Needed kind (unitsFor source kind tree) d → d ∈ m.directories) :
    (storeAfterAll source tree kinds m).directories = m.directories := by
  induction kinds generalizing m with
  | nil => rfl
  | cons kind kinds ih =>
    have hfirst : (storeAfter source kind tree m).directories = m.directories :=
      directoriesIn_of_needed (h kind List.mem_cons_self)
    rw [storeAfterAll_cons, ih, hfirst]
    intro other ho d hd
    rw [hfirst]
    exact h other (List.mem_cons_of_mem _ ho) d hd

/-- A store in which catalogs were generated stays as it is when they are generated again. -/
theorem storeAfterAll_storeAfterAll (kinds : List CatalogKind) (m : Memory) :
    storeAfterAll source tree kinds (storeAfterAll source tree kinds m) =
      storeAfterAll source tree kinds m := by
  have hfiles : (storeAfterAll source tree kinds (storeAfterAll source tree kinds m)).files =
      (storeAfterAll source tree kinds m).files := by
    rw [files_storeAfterAll, readOnly_storeAfterAll, files_storeAfterAll, stored_stored]
  have hdirectories :
      (storeAfterAll source tree kinds (storeAfterAll source tree kinds m)).directories =
      (storeAfterAll source tree kinds m).directories :=
    directories_storeAfterAll fun kind hk d hd =>
      mem_directories_storeAfterAll.mpr (.inl ⟨kind, hk, hd⟩)
  have hreadOnly : (storeAfterAll source tree kinds (storeAfterAll source tree kinds m)).readOnly =
      (storeAfterAll source tree kinds m).readOnly := readOnly_storeAfterAll kinds _
  cases hm : storeAfterAll source tree kinds (storeAfterAll source tree kinds m)
  rw [hm] at hfiles hdirectories hreadOnly
  simp only at hfiles hdirectories hreadOnly
  rw [hfiles, hdirectories, hreadOnly]

theorem storeAfterAll_of_unitsFor {other : FileTree}
    (h : ∀ kind, unitsFor source kind tree = unitsFor source kind other) (kinds : List CatalogKind)
    (m : Memory) :
    storeAfterAll source tree kinds m = storeAfterAll source other kinds m := by
  induction kinds generalizing m with
  | nil => rfl
  | cons kind kinds ih =>
    have hfirst : storeAfter source kind tree m = storeAfter source kind other m := by
      rw [storeAfter, storeAfter, h kind]
    rw [storeAfterAll_cons, storeAfterAll_cons, ih, hfirst]

end Runs

section Results
variable (source : Path) (w : World)

def countsIn (source : Path) (w : World) : Counts where
  contentTypes := countIn .contentTypes w.memory.readOnly (unitsFor source .contentTypes w.files)
  sections := countIn .sections w.memory.readOnly (unitsFor source .sections w.files)

theorem result_generateAll_memory :
    ∃ log, (inMemory source).generateAll.result w =
      (.ok (countsIn source w),
        { w with
          memory := storeAfterAll source w.files CatalogKind.all w.memory, log := log }) := by
  choose log h using result_generate_memory source
  simp only [generateAll, Run.result_bind, Run.result_info, h]
  exact ⟨_, rfl⟩

theorem result_generateOnly_memory (kind : CatalogKind) :
    ∃ log, ((inMemory source).generateOnly kind).result w =
      (.ok (countIn kind w.memory.readOnly (unitsFor source kind w.files)),
        { w with memory := storeAfterAll source w.files [kind] w.memory, log := log }) := by
  obtain ⟨log, h⟩ :=
    result_generate_memory source kind { w with log := w.log ++ [⟨.info, onlyHeadline kind⟩] }
  rw [generateOnly, Run.result_bind, Run.result_info]
  simp only [Run.result_bind, h]
  split
  · exact ⟨_, rfl⟩
  · exact ⟨_, rfl⟩

end Results

/-- The bytes of the catalogs of a directory, or what keeps them from being read, are the
same in two trees. -/
def SameCatalogs (source : Path) (tree other : FileTree) : Prop :=
  ∀ kind, tree.readBytes ((inMemory source).catalogPath kind) =
    other.readBytes ((inMemory source).catalogPath kind)

/-- A store that several catalogs were generated in has settled, if the catalogs are the same. -/
theorem settled_of_sameCatalogs {source : Path} {v w : World} {kinds : List CatalogKind}
    (hm : v.memory = storeAfterAll source w.files kinds w.memory)
    (hc : SameCatalogs source v.files w.files) :
    v.memory.readOnly = w.memory.readOnly ∧
    (∀ kind, unitsFor source kind v.files = unitsFor source kind w.files) ∧
      storeAfterAll source v.files kinds v.memory =
        storeAfterAll source w.files kinds w.memory := by
  have hunits (kind : CatalogKind) : unitsFor source kind v.files = unitsFor source kind w.files :=
    unitsIn_of_readBytes (hc kind)
  refine ⟨?_, hunits, ?_⟩
  · rw [hm, readOnly_storeAfterAll]
  · rw [storeAfterAll_of_unitsFor hunits, hm, storeAfterAll_storeAfterAll]

/-- Generating both packages, or one of them, never fails, whatever a store holds and refuses. Once
it was done, doing it again with the same catalogs gives the same numbers of types and leaves the
store exactly as it is. -/
theorem regeneration_keeps_store (source : Path) (w : World) :
    (∃ counts w₁, (inMemory source).generateAll.result w = (.ok counts, w₁) ∧ w₁.files = w.files ∧
      ∀ v, v.memory = w₁.memory → SameCatalogs source v.files w.files →
        ∃ v₁, (inMemory source).generateAll.result v = (.ok counts, v₁) ∧ v₁.memory = w₁.memory) ∧
    ∀ kind, ∃ count w₁, ((inMemory source).generateOnly kind).result w = (.ok count, w₁) ∧
    w₁.files = w.files ∧
      ∀ v, v.memory = w₁.memory → SameCatalogs source v.files w.files →
        ∃ v₁, ((inMemory source).generateOnly kind).result v = (.ok count, v₁) ∧
        v₁.memory = w₁.memory := by
  constructor
  · obtain ⟨log, h⟩ := result_generateAll_memory source w
    refine ⟨_, _, h, rfl, ?_⟩
    intro v hm hc
    obtain ⟨hreadOnly, hunits, hstore⟩ := settled_of_sameCatalogs hm hc
    obtain ⟨log', h'⟩ := result_generateAll_memory source v
    have hcounts : countsIn source v = countsIn source w := by
      rw [countsIn, countsIn, hreadOnly, hunits, hunits]
    rw [hcounts, hstore] at h'
    exact ⟨_, h', rfl⟩
  · intro kind
    obtain ⟨log, h⟩ := result_generateOnly_memory source w kind
    refine ⟨_, _, h, rfl, ?_⟩
    intro v hm hc
    obtain ⟨hreadOnly, hunits, hstore⟩ := settled_of_sameCatalogs hm hc
    obtain ⟨log', h'⟩ := result_generateOnly_memory source v kind
    rw [hreadOnly, hunits, hstore] at h'
    exact ⟨_, h', rfl⟩

end Generator
end CatalogTypes
