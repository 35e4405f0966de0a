import CatalogTypes.Output

/-! # Stores in memory

An ensured directory is there and keeps what was there before. A file is stored where nothing
keeps it from being, and the store then answers with what was written last.
-/
namespace CatalogTypes

namespace Memory

theorem mem_insertNew {directory d : Text} {directories : List Text} :
    d ∈ insertNew directory directories ↔ d = directory ∨ d ∈ directories := by
  unfold insertNew
  split
  next h =>
    have hd : directory ∈ directories := by simpa using h
    exact ⟨.inr, fun h => h.elim (· ▸ hd) id⟩
  next => rw [List.mem_append, List.mem_singleton, or_comm]

theorem mem_directories_ensureDirectory {m : Memory} {path d : Text} :
    d ∈ (m.ensureDirectory path).directories ↔ d ∈ withAncestors (.ofText path) ∨
    d ∈ m.directories := by
  unfold ensureDirectory
  simp only
  generalize m.directories = ds
  induction withAncestors (.ofText path) generalizing ds with
  | nil => simp
  | cons e es ih =>
    rw [List.foldl_cons, ih, mem_insertNew, List.mem_cons]
    exact or_left_comm.trans or_assoc.symm

theorem insertNew_of_mem {directory : Text} {directories : List Text}
    (h : directory ∈ directories) :
    insertNew directory directories = directories := by
  simp [insertNew, h]

theorem ensureDirectory_of_mem {m : Memory} {path : Text}
    (h : ∀ d ∈ withAncestors (.ofText path), d ∈ m.directories) : m.ensureDirectory path = m := by
  have hfold (ds : List Text) (hds : ∀ d ∈ ds, d ∈ m.directories) :
      ds.foldl (fun ds d => insertNew d ds) m.directories = m.directories := by
    induction ds with
    | nil => rfl
    | cons d ds ih =>
      rw [List.foldl_cons, insertNew_of_mem (hds d List.mem_cons_self)]
      exact ih fun e he => hds e (List.mem_cons_of_mem _ he)
  rw [ensureDirectory, hfold _ h]

theorem write_eq_ok {m : Memory} {path content : Text}
    (hr : m.readOnly.any (·.isPrefixOf path) = false)
    (hd : (Path.ofText path).parent.toText ∈ m.directories) :
    m.write path content = .ok { m with files := Association.put path content m.files } := by
  rw [write, hr]
  simp [hd]

theorem write_eq_error {m : Memory} {path : Text} (hr : m.readOnly.any (·.isPrefixOf path) = true)
    (content : Text) :
    m.write path content = .error (.readOnly path) := by
  rw [write, hr]
  simp

theorem read_eq_ok_iff {m : Memory} {path content : Text} :
    m.read path = .ok content ↔ m.files.lookup path = some content := by
  unfold read
  cases m.files.lookup path <;> simp

end Memory

namespace Output
variable {w : World}

theorem result_write_memory {path content : Text} {m : Memory}
    (h : w.memory.write path content = .ok m) :
    (Output.memory.write path content).result w = (.ok (), { w with memory := m }) := by
  simp [write, Run.changeMemory, h]

theorem result_write_memory_error {path content : Text} {e : MemoryError}
    (h : w.memory.write path content = .error e) :
    (Output.memory.write path content).result w = (.error (.memory e), w) := by
  simp [write, Run.changeMemory, h]

end Output
end CatalogTypes
