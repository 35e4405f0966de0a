import CatalogTypes.Generation
import CatalogTypes.Proofs.Catalog.File
import CatalogTypes.Proofs.Package.Stored

/-! # Generation in memory

Generating a package in a store never fails. It writes the files of the package up to the first that
a read-only beginning refuses, whatever the store holds already. The packages have no path in
common, so it makes no difference which of them is generated first.
-/
namespace CatalogTypes
open Package Identifier

namespace Package

def IsOutputName (name : Text) : Prop :=
  name ∈ packageNames ∨ ∃ identifier, WellFormed identifier ∧ name = identifier ++ ".ts"

theorem isOutputName_of_mem_fileNames {units : List TypeUnit}
    (h : ∀ u ∈ units, WellFormed u.identifier) {name : Text} (hn : name ∈ fileNames units) :
    IsOutputName name := by
  rcases List.mem_append.mp hn with hn | hn
  · obtain ⟨u, hu, rfl⟩ := List.mem_map.mp hn
    exact .inr ⟨u.identifier, h u hu, rfl⟩
  · exact .inl hn

theorem pathOf_ne {kind other : CatalogKind} (h : kind ≠ other) (name name' : Text) :
    pathOf kind.name name ≠ pathOf other.name name' := by
  intro hp
  simp only [pathOf, fullName, List.append_assoc] at hp
  have hrest := congrArg List.head? (List.append_cancel_left (List.append_cancel_left hp))
  have hhead (k : CatalogKind) (rest : Text) : (k.name ++ rest).head? = k.name.head? := by
    cases k <;> rfl
  rw [hhead, hhead] at hrest
  revert h hrest
  cases kind <;> cases other <;> decide

theorem mem_directories_prepared {package d : Text} {m : Memory} :
    d ∈ (prepared package m).directories ↔
      d ∈ Memory.withAncestors (.ofText (fullName package)) ∨
        d ∈ Memory.withAncestors (.ofText scope) ∨ d ∈ m.directories := by
  rw [prepared, Memory.mem_directories_ensureDirectory, Memory.mem_directories_ensureDirectory]

end Package

namespace Generator

def inMemory (source : Path) : Generator := ⟨source, .memory⟩

section Written
variable (kind : CatalogKind)

/-- The files that units put into a store, if there are units. -/
def contribution (readOnly : List Text) : Except Failure (List TypeUnit) → List OutputFile
  | .error _ => []
  | .ok units => accepted readOnly (files kind.name units)

def countIn (readOnly : List Text) : Except Failure (List TypeUnit) → Nat
  | .error _ => 0
  | .ok units => (refusal? readOnly (files kind.name units)).elim units.length fun _ => 0

def directoriesIn (m : Memory) : Except Failure (List TypeUnit) → List Text
  | .error _ => m.directories
  | .ok _ => (prepared kind.name m).directories

end Written

variable (source : Path) (kind : CatalogKind) (tree : FileTree)

def unitsFor : Except Failure (List TypeUnit) :=
  unitsIn tree kind ((inMemory source).catalogPath kind)

def storeAfter (m : Memory) : Memory where
  files := stored (contribution kind m.readOnly (unitsFor source kind tree)) m.files
  directories := directoriesIn kind m (unitsFor source kind tree)
  readOnly := m.readOnly

theorem result_generate_memory (w : World) :
    ∃ log, ((inMemory source).generate kind).result w =
      (.ok (countIn kind w.memory.readOnly (unitsFor source kind w.files)),
        { w with memory := storeAfter source kind w.files w.memory, log := log }) := by
  obtain ⟨log, hu⟩ := result_unitsOfFile kind ((inMemory source).catalogPath kind) w
  rw [generate, Run.result_bind, Run.result_attempt, hu, storeAfter, unitsFor]
  cases hw : unitsIn w.files kind ((inMemory source).catalogPath kind) with
  | error e =>
    have he := isCatalogFault_of_unitsIn hw
    simp only [he, countIn, contribution, directoriesIn]
    exact ⟨_, rfl⟩
  | ok units =>
    obtain ⟨log', he⟩ :=
      result_emit_refusing kind.name (wellFormed_of_unitsIn hw) { w with log := log }
    have hstore : (⟨stored (contribution kind w.memory.readOnly (.ok units)) w.memory.files,
          directoriesIn kind w.memory (.ok units), w.memory.readOnly⟩ : Memory) =
        { prepared kind.name w.memory with
          files := stored (accepted w.memory.readOnly (files kind.name units)) w.memory.files } :=
            rfl
    have hout : (inMemory source).output = .memory := rfl
    simp only [write, hout, Run.result_bind, Run.result_attempt, he, countIn, hstore]
    cases hr : refusal? w.memory.readOnly (files kind.name units) with
    | none => exact ⟨log', rfl⟩
    | some e =>
      obtain ⟨f, _, rfl⟩ := Option.map_eq_some_iff.mp hr
      exact ⟨_, rfl⟩

theorem files_generate_memory (w : World) :
    (((inMemory source).generate kind).result w).2.memory.files =
      stored (contribution kind w.memory.readOnly (unitsFor source kind w.files))
        w.memory.files := by
  obtain ⟨log, h⟩ := result_generate_memory source kind w
  rw [h]
  rfl

theorem of_mem_contribution {kind : CatalogKind} {readOnly : List Text}
    {found : Except Failure (List TypeUnit)} {f : OutputFile}
    (h : f ∈ contribution kind readOnly found) :
    ∃ units, found = .ok units ∧ f ∈ files kind.name units := by
  cases found with
  | error e => cases h
  | ok units => exact ⟨units, rfl, (List.takeWhile_prefix _).subset h⟩

theorem exists_name_of_mem_contribution {readOnly : List Text} {f : OutputFile}
    (h : f ∈ contribution kind readOnly (unitsFor source kind tree)) :
    ∃ name, IsOutputName name ∧ f.path = pathOf kind.name name := by
  obtain ⟨units, hu, hf⟩ := of_mem_contribution h
  obtain ⟨name, hn, hp⟩ := exists_name_of_mem_files hf
  exact ⟨name, isOutputName_of_mem_fileNames (wellFormed_of_unitsIn hu) hn, hp⟩

/-- What a catalog contributes to a store does not depend on what was contributed from another
one. -/
theorem read_storeAfter_comm {kind other : CatalogKind} (h : kind ≠ other) (m : Memory)
    (path : Text) :
    (storeAfter source other tree (storeAfter source kind tree m)).read path =
      (storeAfter source kind tree (storeAfter source other tree m)).read path := by
  have hpaths : ∀ f ∈ contribution kind m.readOnly (unitsFor source kind tree),
      ∀ g ∈ contribution other m.readOnly (unitsFor source other tree), f.path ≠ g.path := by
    intro f hf g hg
    obtain ⟨name, _, hname⟩ := exists_name_of_mem_contribution source kind tree hf
    obtain ⟨name', _, hname'⟩ := exists_name_of_mem_contribution source other tree hg
    rw [hname, hname']
    exact pathOf_ne h name name'
  have hl := lookup_stored_comm hpaths m.files path
  simp only [Memory.read, storeAfter, hl]

theorem mem_directoriesIn {m : Memory} {found : Except Failure (List TypeUnit)} {d : Text} :
    d ∈ directoriesIn kind m found ↔
      ((∃ units, found = .ok units) ∧
        (d ∈ Memory.withAncestors (.ofText (fullName kind.name)) ∨
          d ∈ Memory.withAncestors (.ofText scope))) ∨
      d ∈ m.directories := by
  cases found with
  | error e => simp [directoriesIn]
  | ok units => simp [directoriesIn, mem_directories_prepared, or_assoc]

/-- Generating one package and then the other gives the same files, the same directories and the
same numbers of types in either order, and neither fails. What a package adds or changes are files
of its own directory, with names of files of a package. -/
theorem generate_in_either_order (source : Path) (w : World) :
    (∃ contentTypes sections w₁ w₂ v₁ v₂,
      ((inMemory source).generate .contentTypes).result w = (.ok contentTypes, w₁) ∧
      ((inMemory source).generate .sections).result w₁ = (.ok sections, w₂) ∧
      ((inMemory source).generate .sections).result w = (.ok sections, v₁) ∧
      ((inMemory source).generate .contentTypes).result v₁ = (.ok contentTypes, v₂) ∧
      (∀ path, w₂.memory.read path = v₂.memory.read path) ∧
      ∀ d, d ∈ w₂.memory.directories ↔ d ∈ v₂.memory.directories) ∧
    ∀ kind path, (((inMemory source).generate kind).result w).2.memory.read path ≠
      w.memory.read path →
      ∃ name, IsOutputName name ∧ path = pathOf kind.name name := by
  constructor
  · obtain ⟨log₁, h₁⟩ := result_generate_memory source .contentTypes w
    obtain ⟨log₂, h₂⟩ := result_generate_memory source .sections
      { w with memory := storeAfter source .contentTypes w.files w.memory, log := log₁ }
    obtain ⟨log₃, h₃⟩ := result_generate_memory source .sections w
    obtain ⟨log₄, h₄⟩ := result_generate_memory source .contentTypes
      { w with memory := storeAfter source .sections w.files w.memory, log := log₃ }
    refine ⟨_, _, _, _, _, _, h₁, h₂, h₃, h₄, ?_, ?_⟩
    · exact read_storeAfter_comm source w.files (by decide) w.memory
    · intro d
      simp only [storeAfter, mem_directoriesIn]
      exact or_left_comm
  · intro kind path hne
    obtain ⟨log, h⟩ := result_generate_memory source kind w
    rw [h] at hne
    by_cases hp : ∃ f ∈ contribution kind w.memory.readOnly (unitsFor source kind w.files),
      path = f.path
    · obtain ⟨f, hf, rfl⟩ := hp
      exact exists_name_of_mem_contribution source kind w.files hf
    · have hl : (stored (contribution kind w.memory.readOnly (unitsFor source kind w.files))
            w.memory.files).lookup
          path = w.memory.files.lookup path :=
        lookup_stored_of_not_mem fun f hf he => hp ⟨f, hf, he⟩
      simp only [Memory.read, storeAfter, hl, ne_eq, not_true_eq_false] at hne

end Generator
end CatalogTypes
