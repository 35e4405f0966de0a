import CatalogTypes.Files.Tree
import CatalogTypes.Proofs.Results

/-! # Where paths lead

A path leads somewhere if every part but the last one leads to a directory, so only the directories
of a tree matter for it. What is there when the path is followed, or comes later, makes no
difference as long as no directory goes away.
-/
namespace CatalogTypes.FileTree
open Text

/-- Follows parts whether or not they exist. Only a directory has anything below it. -/
def descend (tree : FileTree) : Location → List Text → Except Obstacle Location
  | place, [] => .ok place
  | place, part :: rest => do
    let next ← tree.step place part
    tree.descend next rest

variable {tree : FileTree} {place next stop : Location} {part : Text} {parts : List Text} {p : Path}

theorem step_eq_ok (h : tree.step place part = .ok next) :
    tree.isDirectoryAt place ∧ nameSize part ≤ longestName ∧
      next = if part = Path.up then place.dropLast else place ++ [Utf8.settled part] := by
  unfold step at h
  split at h
  · cases h
  next hd =>
    split at h
    · cases h
    next hs =>
      refine ⟨by simpa using hd, by omega, ?_⟩
      split at h
      next hu =>
        cases h
        rw [if_pos hu]
      next hu =>
        cases h
        rw [if_neg hu]

theorem step_of_isDirectoryAt (hd : tree.isDirectoryAt place) (hs : nameSize part ≤ longestName)
    (hu : part ≠ Path.up) : tree.step place part = .ok (place ++ [Utf8.settled part]) := by
  have hl : ¬ longestName < nameSize part := by omega
  simp [step, hd, hl, hu]

theorem descend_cons_eq_ok :
    tree.descend place (part :: parts) = .ok stop ↔
      ∃ next, tree.step place part = .ok next ∧ tree.descend next parts = .ok stop := bind_eq_ok

theorem descend_append_eq_ok {front back : List Text} :
    tree.descend place (front ++ back) = .ok stop ↔
      ∃ next, tree.descend place front = .ok next ∧ tree.descend next back = .ok stop := by
  induction front generalizing place with
  | nil =>
    constructor
    · intro h
      exact ⟨place, rfl, h⟩
    · rintro ⟨_, hn, h⟩
      cases hn
      exact h
  | cons part front ih =>
    rw [List.cons_append, descend_cons_eq_ok]
    constructor
    · rintro ⟨next, hs, h⟩
      obtain ⟨place', hf, hb⟩ := ih.mp h
      exact ⟨place', descend_cons_eq_ok.mpr ⟨next, hs, hf⟩, hb⟩
    · rintro ⟨place', hf, hb⟩
      obtain ⟨next, hs, h⟩ := descend_cons_eq_ok.mp hf
      exact ⟨next, hs, ih.mpr ⟨place', h, hb⟩⟩

theorem isDirectoryAt_of_descend (h : tree.descend place parts = .ok stop)
    (hd : tree.isDirectoryAt stop) :
    tree.isDirectoryAt place := by
  cases parts with
  | nil =>
    cases h
    exact hd
  | cons part parts =>
    obtain ⟨next, hs, _⟩ := descend_cons_eq_ok.mp h
    exact (step_eq_ok hs).1

theorem isSome_get?_of_isDirectoryAt (h : tree.isDirectoryAt place) : (tree.get? place).isSome := by
  have hg : tree.get? place = some .directory := by simpa [isDirectoryAt] using h
  rw [hg]
  rfl

theorem follow_cons_eq_ok :
    tree.follow place (part :: parts) = .ok stop ↔
      ∃ next, tree.step place part = .ok next ∧ (tree.get? next).isSome ∧
      tree.follow next parts = .ok stop := by
  rw [follow, bind_eq_ok]
  apply exists_congr
  intro next
  apply and_congr_right
  intro _
  cases tree.get? next with
  | none => simp [bind, Except.bind, throw, throwThe, MonadExceptOf.throw]
  | some entry => simp

/-- To follow a path to a directory is to descend to it. -/
theorem follow_eq_ok_iff (hd : tree.isDirectoryAt stop) :
    tree.follow place parts = .ok stop ↔ tree.descend place parts = .ok stop := by
  induction parts generalizing place with
  | nil => exact Iff.rfl
  | cons part parts ih =>
    rw [descend_cons_eq_ok, follow_cons_eq_ok]
    apply exists_congr
    intro next
    apply and_congr_right
    intro _
    constructor
    · rintro ⟨_, h⟩
      exact ih.mp h
    · intro h
      exact ⟨isSome_get?_of_isDirectoryAt (isDirectoryAt_of_descend h hd), ih.mpr h⟩

theorem descend_concat_eq_ok {last : Text} :
    tree.descend place (parts ++ [last]) = .ok stop ↔
      ∃ next, tree.descend place parts = .ok next ∧ tree.step next last = .ok stop := by
  rw [descend_append_eq_ok]
  apply exists_congr
  intro next
  apply and_congr_right
  intro _
  rw [descend_cons_eq_ok]
  constructor
  · rintro ⟨_, hs, h⟩
    cases h
    exact hs
  · intro hs
    exact ⟨stop, hs, rfl⟩

def Usable (p : Path) : Prop := ∃ t, checkedText p = .ok t ∧ nameSize t ≤ longestPath

theorem resolve_of_parts {t last : Text} (ht : checkedText p = .ok t)
    (hl : nameSize t ≤ longestPath) (hp : p.parts = parts ++ [last]) :
    tree.resolve p =
      (tree.follow (tree.origin p) parts >>= fun place => tree.step place last).mapError
        (.file · t) := by
  have hn : ¬ longestPath < nameSize t := by omega
  simp only [resolve, ht, bind, Except.bind, if_neg hn, hp, List.getLast?_concat,
    List.dropLast_concat]
  cases tree.follow (tree.origin p) parts with
  | error e => rfl
  | ok place => rfl

theorem resolve_of_no_parts {t : Text} (ht : checkedText p = .ok t) (hl : nameSize t ≤ longestPath)
    (hp : p.parts = []) : tree.resolve p = .ok (tree.origin p) := by
  have hn : ¬ longestPath < nameSize t := by omega
  simp only [resolve, ht, bind, Except.bind, pure, Except.pure, if_neg hn, hp, List.getLast?_nil]

theorem usable_of_resolve (h : tree.resolve p = .ok stop) : Usable p := by
  obtain ⟨t, ht, h⟩ := bind_eq_ok.mp h
  by_cases hl : longestPath < nameSize t
  · rw [if_pos hl] at h
    cases h
  · exact ⟨t, ht, by omega⟩

/-- The location of a path is found by descending, for all parts but the last one must lead to
directories anyhow. -/
theorem resolve_eq_ok_iff :
    tree.resolve p = .ok stop ↔ Usable p ∧ tree.descend (tree.origin p) p.parts = .ok stop := by
  have hu (h : Usable p) : tree.resolve p = .ok stop ↔
      tree.descend (tree.origin p) p.parts = .ok stop := by
    obtain ⟨t, ht, hl⟩ := h
    rcases List.eq_nil_or_concat p.parts with hp | ⟨front, last, hp⟩
    · rw [resolve_of_no_parts ht hl hp, hp, descend, Except.ok.injEq, Except.ok.injEq]
    · rw [List.concat_eq_append] at hp
      rw [resolve_of_parts ht hl hp, hp, mapError_eq_ok, bind_eq_ok, descend_concat_eq_ok]
      apply exists_congr
      intro next
      apply and_congr_left
      intro hs
      exact follow_eq_ok_iff (step_eq_ok hs).1
  constructor
  · intro h
    exact ⟨usable_of_resolve h, (hu (usable_of_resolve h)).mp h⟩
  · rintro ⟨h, hd⟩
    exact (hu h).mpr hd

/-- A tree keeps the directories of another one, and may have more. -/
structure Keeps (before after : FileTree) : Prop where
  workDirectory : after.workDirectory = before.workDirectory
  isDirectoryAt {place : Location} (h : before.isDirectoryAt place) : after.isDirectoryAt place

namespace Keeps
variable {before after later : FileTree}

theorem refl (tree : FileTree) : Keeps tree tree := ⟨rfl, id⟩

theorem trans (h : Keeps before after) (h' : Keeps after later) : Keeps before later :=
  ⟨h'.workDirectory.trans h.workDirectory, fun hd => h'.isDirectoryAt (h.isDirectoryAt hd)⟩

theorem step (h : Keeps before after) (hs : before.step place part = .ok next) :
    after.step place part = .ok next := by
  obtain ⟨hd, hl, rfl⟩ := step_eq_ok hs
  have hn : ¬ longestName < nameSize part := by omega
  unfold FileTree.step
  rw [h.isDirectoryAt hd, if_neg hn]
  by_cases hu : part = Path.up
  · simp [hu]
  · simp [hu]

theorem descend (h : Keeps before after) (hd : before.descend place parts = .ok stop) :
    after.descend place parts = .ok stop := by
  induction parts generalizing place with
  | nil => exact hd
  | cons part parts ih =>
    obtain ⟨next, hs, hr⟩ := descend_cons_eq_ok.mp hd
    exact descend_cons_eq_ok.mpr ⟨next, h.step hs, ih hr⟩

theorem origin (h : Keeps before after) (p : Path) : after.origin p = before.origin p := by
  simp only [FileTree.origin, h.workDirectory]

/-- A path that leads somewhere goes on leading there. -/
theorem resolve (h : Keeps before after) (hr : before.resolve p = .ok stop) :
    after.resolve p = .ok stop := by
  obtain ⟨hu, hd⟩ := resolve_eq_ok_iff.mp hr
  rw [← h.origin] at hd
  exact resolve_eq_ok_iff.mpr ⟨hu, h.descend hd⟩

end Keeps
end CatalogTypes.FileTree
