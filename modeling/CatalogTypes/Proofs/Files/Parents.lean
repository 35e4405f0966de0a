import CatalogTypes.Proofs.Files.Lasting

/-! # Parents of what is stored

A store is a tree at any time: the parent of whatever was ensured or written is recorded as a
directory, unless paths start there, and an anchor is its own parent. What is refused leaves no
trace, and what is written is read back.
-/
namespace CatalogTypes

namespace Path
variable {p q : Path} {n : Nat}

theorem Tidy.toText_eq_point_iff (h : p.Tidy) : p.toText = text "." ↔ p = here := by
  constructor
  · intro hp
    have hpoint : here.Tidy := nofun
    rw [← h.ofText_toText, hp]
    exact hpoint.ofText_toText
  · rintro rfl
    rfl

/-- The parents of a path are closed under parents, up to the anchor. -/
theorem parent_mem_ancestorsUpTo (hn : p.parts.length ≤ n) (hq : q = p ∨ q ∈ p.ancestorsUpTo n) :
    q.parts = [] ∨ q.parent ∈ p.ancestorsUpTo n := by
  induction n generalizing p with
  | zero =>
    rcases hq with rfl | hq
    · exact .inl (List.eq_nil_of_length_eq_zero (Nat.le_zero.mp hn))
    · cases hq
  | succ n ih =>
    rcases hq with rfl | hq
    · exact .inr List.mem_cons_self
    · have hparent : p.parent.parts.length ≤ n := by
        simp only [parent, List.length_dropLast]
        omega
      exact (ih hparent (List.mem_cons.mp hq)).imp_right (List.mem_cons_of_mem _)

theorem parent_eq_self (h : p.parts = []) : p.parent = p := by
  obtain ⟨anchor, parts⟩ := p
  cases h
  rfl

end Path

namespace Memory
variable {m next : Memory} {path content d : Text}

def parentOf (path : Text) : Text := (Path.ofText path).parent.toText

/-- A directory that paths start from, or one that is recorded. -/
def Holds (m : Memory) (directory : Text) : Prop := directory = "." ∨ directory ∈ m.directories

/-- A store whose directories and files lie in directories that it holds. -/
structure Rooted (m : Memory) : Prop where
  directories : ∀ d ∈ m.directories, d ≠ text "." → m.Holds (parentOf d)
  files : ∀ f ∈ m.files, m.Holds (parentOf f.1)

theorem rooted_empty (readOnly : List Text) : (empty readOnly).Rooted := ⟨nofun, nofun⟩

theorem Holds.ensureDirectory (h : m.Holds d) (path : Text) : (m.ensureDirectory path).Holds d :=
  h.imp_right fun hd => mem_directories_ensureDirectory.mpr (.inr hd)

/-- An ensured directory comes with its parents, so each of them lies in another one of them. -/
theorem holds_parentOf_of_mem_withAncestors (hd : d ∈ withAncestors (.ofText path))
    (hpoint : d ≠ text ".") :
    (m.ensureDirectory path).Holds (parentOf d) := by
  have htidy := Path.tidy_ofText path
  have hq : ∃ q, (q = .ofText path ∨ q ∈ (Path.ofText path).ancestors) ∧ q.toText = d := by
    rcases List.mem_cons.mp hd with rfl | hd
    · exact ⟨_, .inl rfl, rfl⟩
    · obtain ⟨q, hq, rfl⟩ := List.mem_map.mp hd
      exact ⟨q, .inr (List.mem_filter.mp hq).1, rfl⟩
  obtain ⟨q, hq, rfl⟩ := hq
  have hqtidy : q.Tidy := hq.elim (fun he => he ▸ htidy) htidy.ancestors
  rw [parentOf, hqtidy.ofText_toText]
  rcases Path.parent_mem_ancestorsUpTo (Nat.le_refl _) hq with hnone | hparent
  · rw [Path.parent_eq_self hnone]
    exact .inr (mem_directories_ensureDirectory.mpr (.inl hd))
  · by_cases hhere : q.parent = .here
    · exact .inl (by rw [hhere]; rfl)
    · have hmem : q.parent.toText ∈ withAncestors (.ofText path) :=
        List.mem_cons_of_mem _
          (List.mem_map_of_mem (List.mem_filter.mpr ⟨hparent, decide_eq_true hhere⟩))
      exact .inr (mem_directories_ensureDirectory.mpr (.inl hmem))

theorem Rooted.ensureDirectory (h : m.Rooted) (path : Text) : (m.ensureDirectory path).Rooted where
  directories d hd hpoint := by
    rcases mem_directories_ensureDirectory.mp hd with hnew | hold
    · exact holds_parentOf_of_mem_withAncestors hnew hpoint
    · exact (h.directories d hold hpoint).ensureDirectory path
  files f hf := (h.files f hf).ensureDirectory path

theorem holds_parentOf_iff : m.Holds (parentOf path) ↔
    ¬ ((Path.ofText path).parent ≠ .here ∧
      (!m.directories.contains (Path.ofText path).parent.toText) = true) := by
  have hpoint : parentOf path = text "." ↔ (Path.ofText path).parent = .here :=
    (Path.tidy_ofText path).parent.toText_eq_point_iff
  rw [Holds, hpoint]
  by_cases hhere : (Path.ofText path).parent = .here
  · simp [hhere]
  · simp [hhere, parentOf]

/-- A file is stored exactly if it is under none of the read-only beginnings and its
directory is held. -/
theorem write_eq_ok_iff : m.write path content = .ok next ↔
    m.readOnly.any (·.isPrefixOf path) = false ∧ m.Holds (parentOf path) ∧
      next = { m with files := Association.put path content m.files } := by
  rw [holds_parentOf_iff, write]
  split
  next hr => simp [hr]
  next hr =>
    split
    next hd =>
      constructor
      · intro h
        cases h
      · intro h
        exact absurd hd h.2.1
    next hd =>
      have hwritable : m.readOnly.any (·.isPrefixOf path) = false := Bool.eq_false_iff.mpr hr
      constructor
      · intro h
        cases h
        exact ⟨hwritable, hd, rfl⟩
      · rintro ⟨_, _, rfl⟩
        rfl

theorem Rooted.write (h : m.Rooted) (hw : m.write path content = .ok next) : next.Rooted := by
  obtain ⟨_, hparent, rfl⟩ := write_eq_ok_iff.mp hw
  refine ⟨h.directories, fun f hf => ?_⟩
  rcases Association.of_mem_put hf with rfl | hf
  · exact hparent
  · exact h.files f hf

end Memory

namespace Output
variable {w now next : World} {path content : Text} {operation : Operation}

def Refused (out : Output) (w : World) : Operation → Prop
  | .ensureDirectory path => ∃ e, ((out.ensureDirectory path).result w).1 = .error e
  | .write path content => ∃ e, ((out.write path content).result w).1 = .error e
  | .read path => ∃ e, ((out.read path).result w).1 = .error e
  | .contains path => ∃ e, ((out.contains path).result w).1 = .error e

/-- A store that refuses an operation stays as it was, and so does everything else. -/
theorem step_of_refused (h : memory.Refused w operation) : memory.step w operation = w := by
  cases operation with
  | ensureDirectory path =>
    obtain ⟨e, he⟩ := h
    cases he
  | write path content =>
    obtain ⟨e, he⟩ := h
    cases hw : w.memory.write path content with
    | error e => rw [step, result_write_memory_error hw]
    | ok m =>
      rw [result_write_memory hw] at he
      cases he
  | read path => rfl
  | contains path => rfl

theorem result_write_memory_eq_ok : (memory.write path content).result w = (.ok (), next) ↔
    ∃ m, w.memory.write path content = .ok m ∧ next = { w with memory := m } := by
  cases hw : w.memory.write path content with
  | error e => simp [result_write_memory_error hw]
  | ok m => simp [result_write_memory hw, eq_comm]

theorem rooted_step (w : World) (operation : Operation) (h : w.memory.Rooted) :
    (memory.step w operation).memory.Rooted := by
  cases operation with
  | ensureDirectory path => exact h.ensureDirectory path
  | write path content =>
    cases hw : w.memory.write path content with
    | error e =>
      rw [step, result_write_memory_error hw]
      exact h
    | ok m =>
      rw [step, result_write_memory hw]
      exact h.write hw
  | read path => exact h
  | contains path => exact h

/-- A store that was empty at first is a tree after any operations. Then, whatever is refused
changes nothing; a text is written exactly where nothing is read-only and the directory is held; and
it is read back, while all other spellings are read as before. -/
theorem stored_below_recorded {readOnly : List Text} (hw : w.memory = .empty readOnly)
    {operations : List Operation} (hn : memory.after operations w = now) :
    now.memory.Rooted ∧
    (∀ operation, memory.Refused now operation → memory.step now operation = now) ∧
    (∀ path content, (∃ next, (memory.write path content).result now = (.ok (), next)) ↔
      now.memory.readOnly.any (·.isPrefixOf path) = false ∧
        now.memory.Holds (Memory.parentOf path)) ∧
    ∀ path content next, (memory.write path content).result now = (.ok (), next) →
      (memory.read path).result next = (.ok content, next) ∧
        ∀ other, other ≠ path → ((memory.read other).result next).1 =
          ((memory.read other).result now).1 := by
  refine ⟨?_, fun _ => step_of_refused, ?_, ?_⟩
  · rw [← hn]
    exact after_of_step rooted_step (hw ▸ Memory.rooted_empty readOnly) operations
  · intro path content
    constructor
    · rintro ⟨next, h⟩
      obtain ⟨m, hm, _⟩ := result_write_memory_eq_ok.mp h
      obtain ⟨hr, hd, _⟩ := Memory.write_eq_ok_iff.mp hm
      exact ⟨hr, hd⟩
    · rintro ⟨hr, hd⟩
      exact ⟨_, result_write_memory (Memory.write_eq_ok_iff.mpr ⟨hr, hd, rfl⟩)⟩
  · intro path content next h
    obtain ⟨m, hm, rfl⟩ := result_write_memory_eq_ok.mp h
    constructor
    · simp [read, Run.onMemory, Memory.read_of_write hm]
    · intro other ho
      simp [read, Run.onMemory, Memory.read_of_write_ne hm ho]

def anchored : List Operation :=
  [.ensureDirectory "//a/../b", .write "//a/../b/x" "1", .write "/b/x" "2",
    .ensureDirectory "../d/"]

theorem stored_below_recorded_anchored :
    World.empty.memory = .empty [] ∧
    (memory.after anchored World.empty).memory.Rooted ∧
    memory.Refused (memory.after anchored World.empty) (.write "/b/x" "2") ∧
    memory.step (memory.after anchored World.empty) (.write "/b/x" "2") =
      memory.after anchored World.empty ∧
    ∃ next, (memory.write "../d/y" "3").result (memory.after anchored World.empty) =
      (.ok (), next) ∧
      (memory.read "../d/y").result next = (.ok (text "3"), next) ∧
      ((memory.read "//a/../b/x").result next).1 = .ok (text "1") := by
  have hempty : World.empty.memory = .empty [] := rfl
  obtain ⟨hrooted, hrefused, hwritten, hread⟩ :=
    stored_below_recorded hempty
      (rfl : memory.after anchored World.empty = memory.after anchored World.empty)
  have hrefusal : memory.Refused (memory.after anchored World.empty) (.write "/b/x" "2") :=
    ⟨.memory (.noDirectory "/b"), by rfl⟩
  have hparent : (memory.after anchored World.empty).memory.Holds (Memory.parentOf "../d/y") :=
    .inr (by decide +kernel)
  obtain ⟨next, hnext⟩ := (hwritten "../d/y" "3").mpr ⟨by decide +kernel, hparent⟩
  obtain ⟨hown, hothers⟩ := hread _ _ _ hnext
  have hold : ((memory.read "//a/../b/x").result (memory.after anchored World.empty)).1 =
      .ok (text "1") :=
    eq_ok_of_toOption (by decide +kernel)
  exact ⟨rfl, hrooted, hrefusal, hrefused _ hrefusal, next, hnext, hown,
    (hothers "//a/../b/x" (by decide +kernel)).trans hold⟩

end Output
end CatalogTypes
