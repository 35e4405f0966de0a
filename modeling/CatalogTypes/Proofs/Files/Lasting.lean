import CatalogTypes.Output
import CatalogTypes.Proofs.Files.Directories
import CatalogTypes.Proofs.Files.Memory
import CatalogTypes.Proofs.Files.Spelling

/-! # Directories that last

No operation of an output takes a directory away. On disk a directory that was ensured can be asked
for ever after, by any spelling of its path. A store in memory records the normal spellings of
directories and is asked for the spelling as it is given, so there a directory is found by its
normal spelling only, unless a file was stored under another one.
-/
namespace CatalogTypes

namespace FileTree
variable {tree : FileTree} {place : Location} {p : Path}

theorem exists?_of_leadsTo (h : tree.LeadsTo p place) : tree.exists? p = .ok true := by
  simp [exists?, entry?, lookup, h.1, isSome_get?_of_isDirectoryAt h.2, Except.map]

theorem keeps_put_file (h : tree.isDirectoryAt place = false) (content : Utf8.Bytes) :
    Keeps tree (tree.put place (.file content)) := by
  refine ⟨rfl, fun {other} hd => ?_⟩
  have hne : other ≠ place := by
    rintro rfl
    rw [h] at hd
    cases hd
  rw [isDirectoryAt, get?_put_ne tree hne]
  exact hd

theorem keeps_writeText (tree : FileTree) (p : Path) (content : Text) :
    Keeps tree (tree.writeText p content).2 := by
  rw [writeText]
  cases ho : tree.openForWriting p with
  | error e => exact .refl tree
  | ok opened =>
    obtain ⟨place, _, ho⟩ := bind_eq_ok.mp ho
    split at ho
    · cases ho
    next hd =>
      cases ho
      have hfile : tree.isDirectoryAt place = false := by simpa using hd
      have hplace : place ≠ [] := by
        rintro rfl
        cases hfile
      have hopened : (tree.put place (.file [])).isDirectoryAt place = false := by
        rw [isDirectoryAt, get?_put tree hplace]
        rfl
      cases Utf8.encode content with
      | error e => exact keeps_put_file hfile _
      | ok bytes => exact (keeps_put_file hfile _).trans (keeps_put_file hopened bytes)

end FileTree

namespace Memory
variable {m : Memory}

/-- A store that records directories by their normal spellings. -/
def Normal (m : Memory) : Prop := ∀ d ∈ m.directories, (Path.ofText d).toText = d

theorem normal_empty (readOnly : List Text) : (empty readOnly).Normal := fun _ h => nomatch h

theorem Normal.ensureDirectory (h : m.Normal) (path : Text) : (m.ensureDirectory path).Normal := by
  intro d hd
  have htidy := Path.tidy_ofText path
  rcases mem_directories_ensureDirectory.mp hd with hd | hd
  · rcases List.mem_cons.mp hd with rfl | hd
    · rw [htidy.ofText_toText]
    · obtain ⟨q, hq, rfl⟩ := List.mem_map.mp hd
      rw [(htidy.ancestors (List.mem_filter.mp hq).1).ofText_toText]
  · exact h d hd

theorem write_ok {next : Memory} {path content : Text} (h : m.write path content = .ok next) :
    next = { m with files := Association.put path content m.files } := by
  simp only [write] at h
  split at h
  · cases h
  · split at h
    · cases h
    · cases h
      rfl

end Memory

namespace Output

inductive Operation where
  | ensureDirectory (path : Text)
  | write (path content : Text)
  | read (path : Text)
  | contains (path : Text)
  deriving DecidableEq, Repr

/-- The world after an operation, whatever is answered and even if it is refused. -/
def step (out : Output) (w : World) : Operation → World
  | .ensureDirectory path => ((out.ensureDirectory path).result w).2
  | .write path content => ((out.write path content).result w).2
  | .read path => ((out.read path).result w).2
  | .contains path => ((out.contains path).result w).2

def after (out : Output) (operations : List Operation) (w : World) : World :=
  operations.foldl out.step w

/-- What every operation preserves holds after any number of them. -/
theorem after_of_step {out : Output} {holds : World → Prop}
    (hs : ∀ w operation, holds w → holds (out.step w operation)) {w : World} (h : holds w)
    (operations : List Operation) : holds (out.after operations w) := by
  induction operations generalizing w with
  | nil => exact h
  | cons operation operations ih => exact ih (hs w operation h)

section Disk
variable {root : Path} {w : World}

theorem keeps_step (root : Path) (w : World) (operation : Operation) :
    FileTree.Keeps w.files ((disk root).step w operation).files := by
  cases operation with
  | ensureDirectory path => exact (FileTree.grows_makeDirectories w.files (place root path)).keeps
  | write path content =>
    have hwrite := FileTree.keeps_writeText w.files (place root path) content
    simp only [step, write, Run.result_bind, Run.result_changeFiles]
    split
    next heq =>
      rw [Prod.mk.injEq] at heq
      rw [← heq.2]
      exact hwrite
    next heq =>
      rw [Prod.mk.injEq] at heq
      rw [← heq.2]
      exact hwrite
  | read path => exact .refl w.files
  | contains path => exact .refl w.files

theorem keeps_after (root : Path) (w : World) (operations : List Operation) :
    FileTree.Keeps w.files ((disk root).after operations w).files := by
  have hstep : ∀ later operation, FileTree.Keeps w.files later.files →
      FileTree.Keeps w.files ((disk root).step later operation).files := by
    intro later operation hk
    exact hk.trans (keeps_step root later operation)
  exact after_of_step hstep (.refl w.files) operations

theorem leadsTo_of_ensureDirectory {path : Text} {made : World}
    (h : ((disk root).ensureDirectory path).result w = (.ok (), made)) :
    ∃ dir, made.files.LeadsTo (place root path) dir := by
  rw [ensureDirectory, Run.result_changeFiles, Prod.mk.injEq] at h
  obtain ⟨hok, rfl⟩ := h
  exact (FileTree.makeParents_ok (Prod.ext hok rfl)).2

end Disk

section Store
variable {w : World} {path other : Text}

/-- A store changes by ensuring a directory and by storing a file, and in no other way. -/
theorem memory_step_cases (w : World) (operation : Operation) :
    (∃ path, operation = .ensureDirectory path ∧ (memory.step w operation).memory =
      w.memory.ensureDirectory path) ∨
    (∃ path content, operation = .write path content ∧ (memory.step w operation).memory =
      { w.memory with files := Association.put path content w.memory.files }) ∨
    (memory.step w operation).memory = w.memory := by
  cases operation with
  | ensureDirectory path => exact .inl ⟨path, rfl, rfl⟩
  | write path content =>
    cases hw : w.memory.write path content with
    | error e =>
      rw [step, result_write_memory_error hw]
      exact .inr (.inr rfl)
    | ok m =>
      rw [step, result_write_memory hw, Memory.write_ok hw]
      exact .inr (.inl ⟨path, content, rfl, rfl⟩)
  | read path => exact .inr (.inr rfl)
  | contains path => exact .inr (.inr rfl)

theorem normal_step (w : World) (operation : Operation) (h : w.memory.Normal) :
    (memory.step w operation).memory.Normal := by
  rcases memory_step_cases w operation with ⟨path, _, hm⟩ | ⟨path, content, _, hm⟩ | hm
  · rw [hm]
    exact h.ensureDirectory path
  · rw [hm]
    exact h
  · rw [hm]
    exact h

theorem directories_step {d : Text} (w : World) (operation : Operation)
    (h : d ∈ w.memory.directories) :
    d ∈ (memory.step w operation).memory.directories := by
  rcases memory_step_cases w operation with ⟨path, _, hm⟩ | ⟨path, content, _, hm⟩ | hm
  · rw [hm]
    exact Memory.mem_directories_ensureDirectory.mpr (.inr h)
  · rw [hm]
    exact h
  · rw [hm]
    exact h

/-- A directory that is recorded is found by its normal spelling, and by another one only
if that is a file. -/
theorem contains_iff (hn : w.memory.Normal) (h : (Path.ofText path).toText ∈ w.memory.directories)
    (ho : Path.ofText other = Path.ofText path) :
    w.memory.contains other = true ↔
      other = (Path.ofText path).toText ∨ (w.memory.files.lookup other).isSome := by
  have hd : other ∈ w.memory.directories ↔ other = (Path.ofText path).toText := by
    constructor
    · intro hm
      rw [← ho, hn other hm]
    · rintro rfl
      exact h
  rw [Memory.contains, Bool.or_eq_true, List.contains_iff_mem, hd, or_comm]

end Store

/-- A directory that was ensured on disk is there ever after, whatever operations follow and however
its path is spelled. In a store it is there ever after by its normal spelling, and by another one
exactly if a file was stored under that. -/
theorem ensured_exact (path : Text) :
    (∀ (root : Path) (w made : World), ((disk root).ensureDirectory path).result w =
      (.ok (), made) →
      ∀ (later : List Operation) (other : Text), Path.ofText other = Path.ofText path →
        ((disk root).contains other).result ((disk root).after later made) =
          (.ok true, (disk root).after later made)) ∧
    ∀ (readOnly : List Text) (w : World), w.memory = .empty readOnly → ∀ earlier : List Operation,
      ∃ made, (memory.ensureDirectory path).result (memory.after earlier w) = (.ok (), made) ∧
        ∀ (later : List Operation) (other : Text), Path.ofText other = Path.ofText path →
          ∃ found, (memory.contains other).result (memory.after later made) =
            (.ok found, memory.after later made) ∧
            (found = true ↔ other = (Path.ofText path).toText ∨
              ((memory.after later made).memory.files.lookup other).isSome) := by
  constructor
  · intro root w made h later other ho
    obtain ⟨dir, hdir⟩ := leadsTo_of_ensureDirectory h
    have hlater := (keeps_after root made later).leadsTo hdir
    rw [contains, Run.result_onFiles, place, ho]
    exact congrArg (Prod.mk · _) (FileTree.exists?_of_leadsTo hlater)
  · intro readOnly w hw earlier
    have hn : (memory.after earlier w).memory.Normal :=
      after_of_step normal_step (hw ▸ Memory.normal_empty readOnly) earlier
    refine ⟨memory.step (memory.after earlier w) (.ensureDirectory path), rfl, fun later other ho =>
      ⟨_, rfl, ?_⟩⟩
    refine contains_iff (after_of_step normal_step (hn.ensureDirectory path) later)
      (after_of_step directories_step ?_ later) ho
    exact Memory.mem_directories_ensureDirectory.mpr (.inl List.mem_cons_self)

theorem ensured_exact_respelled :
    Path.ofText "./@cms-types/sections" = Path.ofText "@cms-types//sections/" ∧
    (∃ made, ((disk Path.here).ensureDirectory "@cms-types//sections/").result World.empty =
      (.ok (), made) ∧
      (((disk Path.here).contains "./@cms-types/sections").result
        ((disk Path.here).after [.write "@cms-types/sections/index.ts" "x"] made)).1 = .ok true) ∧
    World.empty.memory = .empty [] ∧
    ((memory.contains "@cms-types/sections").result
      (memory.after [.write "@cms-types/sections/index.ts" "x"]
      (memory.step World.empty (.ensureDirectory "@cms-types//sections/")))).1 = .ok true := by
  have hspelled : Path.ofText "./@cms-types/sections" = Path.ofText "@cms-types//sections/" := by
    decide +kernel
  have hnormal : Path.ofText "@cms-types/sections" = Path.ofText "@cms-types//sections/" := by
    decide +kernel
  have hmade : (((disk Path.here).ensureDirectory "@cms-types//sections/").result World.empty).1 =
      .ok () :=
    eq_ok_of_toOption (by decide +kernel)
  obtain ⟨hdisk, hstore⟩ := ensured_exact "@cms-types//sections/"
  refine ⟨hspelled, ⟨_, Prod.ext hmade rfl, ?_⟩, rfl, ?_⟩
  · rw [hdisk Path.here World.empty _ (Prod.ext hmade rfl) _ _ hspelled]
  · obtain ⟨made, hensured, hlater⟩ := hstore [] World.empty rfl []
    obtain ⟨found, hcontains, hfound⟩ :=
      hlater [.write "@cms-types/sections/index.ts" "x"] _ hnormal
    obtain rfl : memory.step World.empty (.ensureDirectory "@cms-types//sections/") = made :=
      congrArg Prod.snd hensured
    rw [hcontains, hfound.mpr (.inl (by decide +kernel))]

/-- A directory that was ensured by a path with a separator at its end is not found by that path in
a store, although it is on disk. Nor is the directory of the empty path. -/
theorem ensured_forgotten :
    ((memory.contains "a/").result (memory.step World.empty (.ensureDirectory "a/"))).1 =
      .ok false ∧
    (((disk Path.here).contains "a/").result
      ((disk Path.here).step World.empty (.ensureDirectory "a/"))).1 = .ok true ∧
    ((memory.contains []).result (memory.step World.empty (.ensureDirectory []))).1 = .ok false ∧
    (((disk Path.here).contains []).result
      ((disk Path.here).step World.empty (.ensureDirectory []))).1 = .ok true :=
  ⟨eq_ok_of_toOption (by decide +kernel), eq_ok_of_toOption (by decide +kernel),
    eq_ok_of_toOption (by decide +kernel), eq_ok_of_toOption (by decide +kernel)⟩

end Output
end CatalogTypes
