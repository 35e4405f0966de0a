import CatalogTypes.Proofs.Files.Writing

/-! # Fresh directories

A directory is fresh if it can be made and there is nothing in it. A directory below it is made with
the very same parents, whether the fresh one is there already or must be made on the way.
-/
namespace CatalogTypes.FileTree
variable {tree made : FileTree} {p : Path} {dir place : Location} {name : Text} {parts : List Text}

/-- A directory that can be made, and has nothing below it then. -/
structure Fresh (tree : FileTree) (p : Path) (made : FileTree) (dir : Location) : Prop where
  workDirectory : tree.isDirectoryAt tree.workDirectory
  makes : tree.makeDirectories p = (.ok (), made)
  leadsTo : made.LeadsTo p dir
  empty {rest : Location} (h : rest ≠ []) : made.get? (dir ++ rest) = none

theorem length_parts_child (p : Path) (name : Text) :
    (p.child name).parts.length = p.parts.length + 1 :=
  List.length_append

theorem ensureDirectory_child_of_leadsTo (h : tree.LeadsTo p dir) (hn : IsName name)
    (hf : FitsIn p name) (hg : tree.get? (dir ++ [name]) = none) :
    tree.ensureDirectory (p.child name) = .ok (tree.put (dir ++ [name]) .directory) := by
  have hr := resolve_child h hn
  rw [if_pos hf] at hr
  have hm : tree.makeDirectory (p.child name) = .ok (tree.put (dir ++ [name]) .directory) := by
    simp [makeDirectory, hr, hg, bind, Except.bind, pure, Except.pure]
  rw [ensureDirectory, hm]

theorem makeDirectories_child_of_leadsTo (h : tree.LeadsTo p dir) (hn : IsName name)
    (hf : FitsIn p name) (hg : tree.get? (dir ++ [name]) = none) :
    tree.makeDirectories (p.child name) = (.ok (), tree.put (dir ++ [name]) .directory) := by
  rw [makeDirectories, length_parts_child, makeParents, ensureDirectory_child_of_leadsTo h hn hf hg]

theorem follow_concat (last : Text) :
    tree.follow place (parts ++ [last]) = tree.follow place parts >>= fun next =>
      tree.follow next [last] := by
  induction parts generalizing place with
  | nil => rfl
  | cons part parts ih =>
    rw [List.cons_append, follow, follow]
    cases tree.step place part with
    | error e => rfl
    | ok next =>
      simp only [bind, Except.bind]
      split
      · rfl
      · exact ih

theorem step_ne_missing (part : Text) : tree.step place part ≠ .error .missing := by
  unfold step
  split
  · nofun
  split
  · nofun
  split <;> nofun

theorem isDirectoryAt_origin (h : tree.isDirectoryAt tree.workDirectory) (p : Path) :
    tree.isDirectoryAt (tree.origin p) := by
  unfold origin
  split
  · exact h
  · rfl

theorem follow_of_makeDirectory (hw : tree.isDirectoryAt tree.workDirectory)
    (h : tree.makeDirectory p = .ok made) :
    tree.follow (tree.origin p) p.parts = .error .missing := by
  obtain ⟨place, hr, hm⟩ := bind_eq_ok.mp h
  have hg : tree.get? place = none := by
    cases hg : tree.get? place with
    | none => rfl
    | some entry =>
      rw [hg] at hm
      cases hm
  obtain ⟨t, ht, hl⟩ := usable_of_resolve hr
  rcases List.eq_nil_or_concat p.parts with hp | ⟨front, last, hp⟩
  · rw [resolve_of_no_parts ht hl hp] at hr
    cases hr
    have hd := isSome_get?_of_isDirectoryAt (isDirectoryAt_origin hw p)
    rw [hg] at hd
    cases hd
  · rw [List.concat_eq_append] at hp
    rw [resolve_of_parts ht hl hp, mapError_eq_ok, bind_eq_ok] at hr
    obtain ⟨next, hf, hs⟩ := hr
    rw [hp, follow_concat, hf]
    simp [bind, Except.bind, follow, hs, hg, throw, throwThe, MonadExceptOf.throw]

theorem follow_of_makeDirectory_error (hu : Usable p) {t : Text}
    (h : tree.makeDirectory p = .error (.file .missing t)) :
    tree.follow (tree.origin p) p.parts = .error .missing := by
  obtain ⟨t', ht, hl⟩ := hu
  have hr : tree.resolve p = .error (.file .missing t) := by
    rcases bind_eq_error.mp h with hr | ⟨place, _, hm⟩
    · exact hr
    · split at hm
      · cases hm
      · cases hm
  rcases List.eq_nil_or_concat p.parts with hp | ⟨front, last, hp⟩
  · rw [resolve_of_no_parts ht hl hp] at hr
    cases hr
  · rw [List.concat_eq_append] at hp
    rw [resolve_of_parts ht hl hp] at hr
    rw [hp, follow_concat]
    cases hf : tree.follow (tree.origin p) front with
    | error e =>
      rw [hf] at hr
      cases hr
      rfl
    | ok next =>
      rw [hf] at hr
      cases hs : tree.step next last with
      | ok place =>
        simp [bind, Except.bind, hs] at hr
      | error e =>
        simp only [bind, Except.bind, hs, mapError_error, Except.error.injEq,
          Failure.file.injEq] at hr
        exact absurd (hr.1 ▸ hs) (step_ne_missing last)

/-- Where a path leads nowhere, nothing can be made below it. -/
theorem ensureDirectory_child_of_follow (hf : tree.follow (tree.origin p) p.parts = .error .missing)
    (hu : Usable p) (hn : IsName name) (hfit : FitsIn p name) :
    ∃ t, tree.ensureDirectory (p.child name) = .error (.file .missing t) := by
  obtain ⟨t, ht, _⟩ := hu
  have hr : tree.resolve (p.child name) =
      (tree.follow (tree.origin p) p.parts >>= fun place => tree.step place name).mapError
        (.file · (p.child name).toText) :=
    resolve_of_parts (checkedText_child ht hn) hfit.1 rfl
  rw [hf] at hr
  refine ⟨(p.child name).toText, ?_⟩
  simp [ensureDirectory, makeDirectory, hr, bind, Except.bind, Except.mapError]

theorem makeDirectory_of_ensureDirectory_error {t : Text}
    (h : tree.ensureDirectory p = .error (.file .missing t)) :
    tree.makeDirectory p = .error (.file .missing t) := by
  unfold ensureDirectory at h
  split at h
  next => cases h
  next hm =>
    rw [hm]
    split at h
    · exact h
    · cases h
    · exact h
  next hm =>
    rw [hm]
    exact h

/-- Whatever a fresh directory needs, nothing can be made below it before, unless it is there
already. -/
theorem Fresh.cases (h : Fresh tree p made dir) :
    made = tree ∧ tree.LeadsTo p dir ∨ tree.follow (tree.origin p) p.parts = .error .missing := by
  have hu := usable_of_resolve h.leadsTo.1
  have hthere {place : Location} (hl : tree.LeadsTo p place) :
      made = tree ∧ tree.LeadsTo p dir := by
    have hm := h.makes
    rw [makeDirectories_of_leadsTo hl] at hm
    cases hm
    exact ⟨rfl, h.leadsTo⟩
  have hensured {next : FileTree} (he : tree.ensureDirectory p = .ok next) :
      made = tree ∧ tree.LeadsTo p dir ∨ tree.follow (tree.origin p) p.parts = .error .missing := by
    unfold ensureDirectory at he
    split at he
    next hm => exact .inr (follow_of_makeDirectory h.workDirectory hm)
    next =>
      split at he
      · cases he
      · obtain ⟨place, hl⟩ : ∃ place, tree.LeadsTo p place := leadsTo_of_isDirectory? ‹_›
        exact .inl (hthere hl)
      · cases he
    next => cases he
  have hm := h.makes
  rw [makeDirectories] at hm
  cases hlength : p.parts.length with
  | zero =>
    rw [hlength, makeParents] at hm
    split at hm
    next he => exact hensured he
    · cases hm
  | succ height =>
    rw [hlength, makeParents] at hm
    split at hm
    next he => exact hensured he
    next he =>
      exact .inr (follow_of_makeDirectory_error hu (makeDirectory_of_ensureDirectory_error he))
    · cases hm

theorem Fresh.makeDirectories_child (h : Fresh tree p made dir) (hn : IsName name)
    (hf : FitsIn p name) :
    tree.makeDirectories (p.child name) = (.ok (), made.put (dir ++ [name]) .directory) := by
  have hg := h.empty (List.cons_ne_nil name [])
  rcases h.cases with ⟨hmade, _⟩ | hlacks
  · rw [← hmade]
    exact makeDirectories_child_of_leadsTo h.leadsTo hn hf hg
  · obtain ⟨t, he⟩ := ensureDirectory_child_of_follow hlacks (usable_of_resolve h.leadsTo.1) hn hf
    have hm := h.makes
    rw [makeDirectories] at hm
    rw [makeDirectories, length_parts_child, makeParents, he, Path.parent_child, hm]
    simp only [ensureDirectory_child_of_leadsTo h.leadsTo hn hf hg]

theorem leadsTo_put_child (h : tree.LeadsTo p dir) (hn : IsName name) (hf : FitsIn p name) :
    (tree.put (dir ++ [name]) .directory).LeadsTo (p.child name) (dir ++ [name]) := by
  have hk : Keeps tree (tree.put (dir ++ [name]) .directory) := keeps_put_directory (dir ++ [name])
  constructor
  · rw [resolve_child (hk.leadsTo h) hn, if_pos hf]
  · rw [isDirectoryAt, get?_put tree (List.concat_ne_nil name dir)]
    rfl

theorem fresh_child (hw : tree.isDirectoryAt tree.workDirectory) (h : tree.LeadsTo p dir)
    (hn : IsName name) (hf : FitsIn p name) (hg : ∀ rest, tree.get? (dir ++ name :: rest) = none) :
    Fresh tree (p.child name) (tree.put (dir ++ [name]) .directory) (dir ++ [name]) where
  workDirectory := hw
  makes := makeDirectories_child_of_leadsTo h hn hf (hg [])
  leadsTo := leadsTo_put_child h hn hf
  empty := by
    intro rest hr
    rw [get?_put_ne tree (by simpa using hr), List.append_assoc]
    exact hg rest

end CatalogTypes.FileTree
