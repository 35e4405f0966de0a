import CatalogTypes.Proofs.Files.Descent
import CatalogTypes.Proofs.Files.Paths

/-! # Directories that are made

Once directories were made for a path, it leads to a directory, and no directory went away. Making
them once more changes nothing.
-/
namespace CatalogTypes.FileTree

variable {tree made : FileTree} {place : Location} {p : Path}

def LeadsTo (tree : FileTree) (p : Path) (place : Location) : Prop :=
  tree.resolve p = .ok place ∧ tree.isDirectoryAt place

theorem Keeps.leadsTo {before after : FileTree} (h : Keeps before after)
    (hp : before.LeadsTo p place) :
    after.LeadsTo p place :=
  ⟨h.resolve hp.1, h.isDirectoryAt hp.2⟩

theorem keeps_put_directory (place : Location) : Keeps tree (tree.put place .directory) := by
  refine ⟨rfl, ?_⟩
  intro other h
  by_cases ho : other = place
  · cases other with
    | nil => rfl
    | cons name names =>
      have hg := get?_put tree (ho ▸ List.cons_ne_nil name names) .directory
      rw [ho, isDirectoryAt, hg]
      rfl
  · rw [isDirectoryAt, get?_put_ne tree ho]
    exact h

theorem makeDirectory_ok (h : tree.makeDirectory p = .ok made) :
    Keeps tree made ∧ ∃ place, made.LeadsTo p place := by
  obtain ⟨place, hr, h⟩ := bind_eq_ok.mp h
  by_cases hg : (tree.get? place).isSome
  · rw [if_pos hg] at h
    cases h
  · rw [if_neg hg] at h
    cases h
    have hk : Keeps tree (tree.put place .directory) := keeps_put_directory place
    have hn : place ≠ [] := by
      rintro rfl
      exact hg rfl
    refine ⟨hk, place, hk.resolve hr, ?_⟩
    rw [isDirectoryAt, get?_put tree hn]
    rfl

theorem leadsTo_of_isDirectory? (h : tree.isDirectory? p = .ok true) :
    ∃ place, tree.LeadsTo p place := by
  obtain ⟨entry, he, hd⟩ := map_eq_ok.mp h
  have hentry : entry = some .directory := by simpa using hd
  have hl : tree.lookup p = .ok entry := by
    unfold entry? at he
    split at he
    next hl =>
      cases he
      exact hl
    · cases he
    · cases he
      cases hentry
  obtain ⟨place, hr, hg⟩ := map_eq_ok.mp hl
  refine ⟨place, hr, ?_⟩
  rw [isDirectoryAt, hg, hentry]
  rfl

theorem ensureDirectory_ok (h : tree.ensureDirectory p = .ok made) :
    Keeps tree made ∧ ∃ place, made.LeadsTo p place := by
  unfold ensureDirectory at h
  split at h
  next hm =>
    cases h
    exact makeDirectory_ok hm
  next =>
    split at h
    · cases h
    · cases h
      exact ⟨.refl tree, leadsTo_of_isDirectory? ‹_›⟩
    · cases h
  · cases h

theorem makeParents_ok {height : Nat} (h : tree.makeParents p height = (.ok (), made)) :
    Keeps tree made ∧ ∃ place, made.LeadsTo p place := by
  induction height generalizing tree p made with
  | zero =>
    unfold makeParents at h
    split at h
    next hm =>
      cases h
      exact ensureDirectory_ok hm
    · cases h
  | succ height ih =>
    unfold makeParents at h
    split at h
    next hm =>
      cases h
      exact ensureDirectory_ok hm
    next =>
      split at h
      · cases h
      next hp =>
        split at h
        next hm =>
          cases h
          obtain ⟨hk, _⟩ := ih hp
          obtain ⟨hk', hl⟩ := ensureDirectory_ok hm
          exact ⟨hk.trans hk', hl⟩
        · cases h
    · cases h

theorem isDirectory?_of_leadsTo (h : tree.LeadsTo p place) : tree.isDirectory? p = .ok true := by
  have hg : tree.get? place = some .directory := by simpa [isDirectoryAt] using h.2
  simp [isDirectory?, entry?, lookup, h.1, hg, Except.map]

theorem ensureDirectory_of_leadsTo (h : tree.LeadsTo p place) :
    tree.ensureDirectory p = .ok tree := by
  have hg := isSome_get?_of_isDirectoryAt h.2
  have hm : tree.makeDirectory p = .error (.file .exists p.toText) := by
    simp [makeDirectory, h.1, hg, bind, Except.bind, throw, throwThe, MonadExceptOf.throw]
  simp [ensureDirectory, hm, isDirectory?_of_leadsTo h]

theorem makeParents_of_leadsTo (h : tree.LeadsTo p place) (height : Nat) :
    tree.makeParents p height = (.ok (), tree) := by
  have he := ensureDirectory_of_leadsTo h
  cases height with
  | zero => simp [makeParents, he]
  | succ height => simp [makeParents, he]

theorem makeDirectories_of_leadsTo (h : tree.LeadsTo p place) :
    tree.makeDirectories p = (.ok (), tree) :=
  makeParents_of_leadsTo h p.parts.length

theorem eq_of_resolve_child {dir : Location} {name : Text} (h : tree.LeadsTo p dir)
    (hs : Utf8.settled name = name) (hu : name ≠ Path.up)
    (hr : tree.resolve (p.child name) = .ok place) : place = dir ++ [name] := by
  obtain ⟨next, hd, hst⟩ := descend_concat_eq_ok.mp (resolve_eq_ok_iff.mp hr).2
  obtain ⟨_, _, rfl⟩ := step_eq_ok hst
  cases hd.symm.trans (resolve_eq_ok_iff.mp h.1).2
  rw [if_neg hu, hs]

theorem ensureDirectory_eq_ok (h : tree.ensureDirectory p = .ok made) :
    made = tree ∨ ∃ place, tree.resolve p = .ok place ∧ made = tree.put place .directory := by
  unfold ensureDirectory at h
  split at h
  next hm =>
    cases h
    obtain ⟨place, hr, hm⟩ := bind_eq_ok.mp hm
    split at hm
    · cases hm
    · cases hm
      exact .inr ⟨place, hr, rfl⟩
  next =>
    split at h
    · cases h
    · cases h
      exact .inl rfl
    · cases h
  · cases h

theorem makeDirectories_child {dir : Location} {name : Text} (h : tree.LeadsTo p dir)
    (hs : Utf8.settled name = name) (hu : name ≠ Path.up)
    (hm : tree.makeDirectories (p.child name) = (.ok (), made)) :
    made = tree ∨ made = tree.put (dir ++ [name]) .directory := by
  have hensure (he : tree.ensureDirectory (p.child name) = .ok made) :
      made = tree ∨ made = tree.put (dir ++ [name]) .directory := by
    rcases ensureDirectory_eq_ok he with heq | ⟨place, hr, hput⟩
    · exact .inl heq
    · rw [eq_of_resolve_child h hs hu hr] at hput
      exact .inr hput
  have hl : (p.child name).parts.length = p.parts.length + 1 := by simp [Path.child]
  rw [makeDirectories, hl, makeParents] at hm
  split at hm
  next he =>
    cases hm
    exact hensure he
  next =>
    rw [Path.parent_child, makeParents_of_leadsTo h] at hm
    simp only at hm
    split at hm
    next he =>
      cases hm
      exact hensure he
    · cases hm
  · cases hm

/-- A tree in which directories were made, and nothing else was changed. -/
structure Grows (before after : FileTree) : Prop where
  workDirectory : after.workDirectory = before.workDirectory
  get? (place : Location) :
    after.get? place = before.get? place ∨ before.get? place = none ∧
      after.get? place = some .directory

namespace Grows
variable {before after later : FileTree}

theorem refl (tree : FileTree) : Grows tree tree := ⟨rfl, fun _ => .inl rfl⟩

theorem trans (h : Grows before after) (h' : Grows after later) : Grows before later := by
  refine ⟨h'.workDirectory.trans h.workDirectory, ?_⟩
  intro place
  rcases h'.get? place with hl | ⟨hn, hl⟩
  · rw [hl]
    exact h.get? place
  · rcases h.get? place with ha | ⟨_, ha⟩
    · exact .inr ⟨ha.symm.trans hn, hl⟩
    · rw [ha] at hn
      cases hn

theorem keeps (h : Grows before after) : Keeps before after := by
  refine ⟨h.workDirectory, ?_⟩
  intro place hd
  rcases h.get? place with ha | ⟨hn, _⟩
  · rw [isDirectoryAt, ha]
    exact hd
  · rw [isDirectoryAt, hn] at hd
    cases hd

theorem get?_file (h : Grows before after) (place : Location) (content : Utf8.Bytes) :
    after.get? place = some (.file content) ↔ before.get? place = some (.file content) := by
  rcases h.get? place with ha | ⟨hn, ha⟩
  · rw [ha]
  · simp [hn, ha]

end Grows

theorem grows_put_directory (h : tree.get? place = none) :
    Grows tree (tree.put place .directory) := by
  refine ⟨rfl, ?_⟩
  intro other
  by_cases ho : other = place
  · have hn : place ≠ [] := by
      rintro rfl
      cases h
    rw [ho]
    exact .inr ⟨h, get?_put tree hn _⟩
  · exact .inl (get?_put_ne tree ho _)

theorem grows_of_ensureDirectory (h : tree.ensureDirectory p = .ok made) : Grows tree made := by
  unfold ensureDirectory at h
  split at h
  next hm =>
    cases h
    obtain ⟨place, _, hm⟩ := bind_eq_ok.mp hm
    cases hg : tree.get? place with
    | some entry =>
      rw [hg] at hm
      cases hm
    | none =>
      rw [hg] at hm
      cases hm
      exact grows_put_directory hg
  next =>
    split at h
    · cases h
    · cases h
      exact .refl tree
    · cases h
  · cases h

/-- Whatever becomes of it, making directories makes nothing else. -/
theorem grows_makeParents (tree : FileTree) (p : Path) (height : Nat) :
    Grows tree (tree.makeParents p height).2 := by
  induction height generalizing tree p with
  | zero =>
    rw [makeParents]
    split
    next he => exact grows_of_ensureDirectory he
    · exact .refl tree
  | succ height ih =>
    rw [makeParents]
    split
    next he => exact grows_of_ensureDirectory he
    next =>
      have hp := ih tree p.parent
      split
      next hm =>
        rw [hm] at hp
        exact hp
      next hm =>
        rw [hm] at hp
        split
        next he => exact hp.trans (grows_of_ensureDirectory he)
        · exact hp
    · exact .refl tree

theorem grows_makeDirectories (tree : FileTree) (p : Path) :
    Grows tree (tree.makeDirectories p).2 :=
  grows_makeParents tree p p.parts.length

end CatalogTypes.FileTree
