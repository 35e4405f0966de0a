import CatalogTypes.Proofs.Files.Fresh

/-! # Asking for paths

Files tell what a path leads to, be it nothing, unless the path is too long: as a whole, or in a
name that is met on the way through directories. A path that is too long stays so with more names
behind it. Below a file there is nothing.
-/
namespace CatalogTypes.FileTree
open Text
variable {tree : FileTree} {p : Path} {place next dir : Location} {part name t : Text}
  {parts : List Text} {obstacle : Obstacle}

def entryAt (tree : FileTree) (p : Path) : Option Entry := (tree.lookup p).toOption.join

/-- A name that is too long is met in a directory to which the parts before it lead. -/
def MeetsLongName (tree : FileTree) (place : Location) (parts : List Text) : Prop :=
  ∃ front name back dir, parts = front ++ name :: back ∧ tree.follow place front = .ok dir ∧
    tree.isDirectoryAt dir ∧ longestName < nameSize name

/-- A path that can be spelled but is too long to be asked for. -/
def TooLong (tree : FileTree) (p : Path) : Prop :=
  checkedText p = .ok p.toText ∧
    (longestPath < nameSize p.toText ∨ tree.MeetsLongName (tree.origin p) p.parts)

theorem step_eq_nameTooLong_iff :
    tree.step place part = .error .nameTooLong ↔ tree.isDirectoryAt place ∧
    longestName < nameSize part := by
  unfold step
  cases hd : tree.isDirectoryAt place with
  | false => simp
  | true =>
    by_cases hl : longestName < nameSize part
    · simp [hl]
    · by_cases hu : part = Path.up
      · simp [hu, show nameSize Path.up ≤ longestName by decide]
      · simp [hl, hu]

theorem follow_cons_of_error (h : tree.step place part = .error obstacle) (rest : List Text) :
    tree.follow place (part :: rest) = .error obstacle := by
  rw [follow, h]
  rfl

theorem follow_cons_of_ok (h : tree.step place part = .ok next) (rest : List Text) :
    tree.follow place (part :: rest) =
      if (tree.get? next).isNone then .error .missing else tree.follow next rest := by
  rw [follow, h]
  simp only [bind, Except.bind]
  split <;> rfl

theorem meetsLongName_cons_of_error (h : tree.step place part = .error obstacle)
    (rest : List Text) :
    tree.MeetsLongName place (part :: rest) ↔ obstacle = .nameTooLong := by
  constructor
  · rintro ⟨front, name, back, dir, hparts, hf, hd, hl⟩
    cases front with
    | nil =>
      cases hf
      cases hparts
      exact Except.error.inj (h.symm.trans (step_eq_nameTooLong_iff.mpr ⟨hd, hl⟩))
    | cons _ front =>
      cases hparts
      rw [follow_cons_of_error h] at hf
      cases hf
  · rintro rfl
    obtain ⟨hd, hl⟩ := step_eq_nameTooLong_iff.mp h
    exact ⟨[], part, rest, place, rfl, rfl, hd, hl⟩

theorem meetsLongName_cons_of_ok (h : tree.step place part = .ok next) (rest : List Text) :
    tree.MeetsLongName place (part :: rest) ↔ (tree.get? next).isSome ∧
    tree.MeetsLongName next rest := by
  constructor
  · rintro ⟨front, name, back, dir, hparts, hf, hd, hl⟩
    cases front with
    | nil =>
      cases hf
      cases hparts
      cases h.symm.trans (step_eq_nameTooLong_iff.mpr ⟨hd, hl⟩)
    | cons _ front =>
      cases hparts
      obtain ⟨next', hs, hsome, hf⟩ := follow_cons_eq_ok.mp hf
      cases h.symm.trans hs
      exact ⟨hsome, front, name, back, dir, rfl, hf, hd, hl⟩
  · rintro ⟨hsome, front, name, back, dir, rfl, hf, hd, hl⟩
    exact ⟨part :: front, name, back, dir, rfl, follow_cons_eq_ok.mpr ⟨next, h, hsome, hf⟩, hd, hl⟩

theorem follow_eq_nameTooLong_iff :
    tree.follow place parts = .error .nameTooLong ↔ tree.MeetsLongName place parts := by
  induction parts generalizing place with
  | nil =>
    constructor
    · nofun
    · rintro ⟨front, _, _, _, hparts, _⟩
      exact absurd hparts.symm (by simp)
  | cons part rest ih =>
    cases hs : tree.step place part with
    | error obstacle =>
      rw [follow_cons_of_error hs, meetsLongName_cons_of_error hs, Except.error.injEq]
    | ok next =>
      rw [follow_cons_of_ok hs, meetsLongName_cons_of_ok hs]
      cases tree.get? next with
      | none => simp
      | some entry => simpa using ih

section Spelled
variable (ht : checkedText p = .ok t) (hl : nameSize t ≤ longestPath)
include ht hl

/-- A path leads nowhere if its parts do not, unless it is only the last of them that is not
there. -/
theorem resolve_of_follow_error (h : tree.follow (tree.origin p) p.parts = .error obstacle)
    (ho : obstacle ≠ .missing) : tree.resolve p = .error (.file obstacle t) := by
  rcases List.eq_nil_or_concat p.parts with hp | ⟨front, last, hp⟩
  · rw [hp] at h
    cases h
  · rw [List.concat_eq_append] at hp
    rw [resolve_of_parts ht hl hp]
    rw [hp, follow_concat] at h
    cases hf : tree.follow (tree.origin p) front with
    | error e =>
      rw [hf] at h
      cases h
      rfl
    | ok dir =>
      rw [hf] at h
      cases hs : tree.step dir last with
      | error e =>
        simp only [bind, Except.bind, follow_cons_of_error hs, Except.error.injEq] at h
        rw [← h]
        simp [bind, Except.bind, hs]
      | ok next =>
        simp only [bind, Except.bind, follow_cons_of_ok hs] at h
        split at h
        · exact absurd (Except.error.inj h).symm ho
        · cases h

end Spelled

theorem checkedText_ne_file (obstacle : Obstacle) (t : Text) :
    checkedText p ≠ .error (.file obstacle t) := by
  unfold checkedText
  simp only
  split
  · nofun
  · split <;> nofun

theorem tooLong_of_resolve (h : tree.resolve p = .error (.file .nameTooLong t)) :
    tree.TooLong p := by
  rcases bind_eq_error.mp h with hc | ⟨t', hc, hr⟩
  · exact absurd hc (checkedText_ne_file _ _)
  · obtain ⟨rfl, _⟩ := checkedText_eq_ok_iff.mp hc
    refine ⟨hc, ?_⟩
    by_cases hl : longestPath < nameSize p.toText
    · exact .inl hl
    · refine .inr (follow_eq_nameTooLong_iff.mp ?_)
      have hle : nameSize p.toText ≤ longestPath := Nat.le_of_not_lt hl
      rcases List.eq_nil_or_concat p.parts with hp | ⟨front, last, hp⟩
      · rw [resolve_of_no_parts hc hle hp] at h
        cases h
      · rw [List.concat_eq_append] at hp
        rw [resolve_of_parts hc hle hp] at h
        rw [hp, follow_concat]
        cases hf : tree.follow (tree.origin p) front with
        | error e =>
          rw [hf] at h
          cases h
          rfl
        | ok dir =>
          rw [hf] at h
          cases hs : tree.step dir last with
          | error e =>
            simp only [bind, Except.bind, hs, mapError_error, Except.error.injEq,
              Failure.file.injEq] at h
            simp only [bind, Except.bind, follow_cons_of_error hs, h.1]
          | ok next =>
            simp [bind, Except.bind, hs] at h

theorem resolve_of_tooLong (h : tree.TooLong p) :
    tree.resolve p = .error (.file .nameTooLong p.toText) := by
  obtain ⟨hc, hlong⟩ := h
  by_cases hl : longestPath < nameSize p.toText
  · simp [resolve, hc, bind, Except.bind, hl, throw, throwThe, MonadExceptOf.throw]
  · exact resolve_of_follow_error hc (Nat.le_of_not_lt hl)
      (follow_eq_nameTooLong_iff.mpr (hlong.resolve_left hl)) (by decide)

theorem entry?_of_tooLong (h : tree.TooLong p) :
    tree.entry? p = .error (.file .nameTooLong p.toText) := by
  unfold entry? lookup
  rw [resolve_of_tooLong h]
  rfl

theorem entry?_of_not_tooLong (h : ¬ tree.TooLong p) : tree.entry? p = .ok (tree.entryAt p) := by
  unfold entry? entryAt
  split
  next hl =>
    rw [hl]
    rfl
  next hl => exact absurd (tooLong_of_resolve (map_eq_error.mp hl)) h
  next hl =>
    rw [hl]
    rfl

theorem exists?_of_tooLong (h : tree.TooLong p) :
    tree.exists? p = .error (.file .nameTooLong p.toText) := by
  rw [exists?, entry?_of_tooLong h]
  rfl

theorem exists?_of_not_tooLong (h : ¬ tree.TooLong p) :
    tree.exists? p = .ok (tree.entryAt p).isSome := by
  rw [exists?, entry?_of_not_tooLong h]
  rfl

theorem entryAt_eq_some_iff {entry : Entry} :
    tree.entryAt p = some entry ↔ ∃ place, tree.resolve p = .ok place ∧
    tree.get? place = some entry := by
  unfold entryAt lookup
  cases tree.resolve p with
  | error e => simp [Except.map, Except.toOption]
  | ok place => simp [Except.map, Except.toOption]

theorem not_tooLong_of_entryAt {entry : Entry} (h : tree.entryAt p = some entry) :
    ¬ tree.TooLong p := by
  intro ht
  obtain ⟨_, hr, _⟩ := entryAt_eq_some_iff.mp h
  cases (resolve_of_tooLong ht).symm.trans hr

theorem readBytes_of_file {content : Utf8.Bytes} (h : tree.entryAt p = some (.file content)) :
    tree.readBytes p = .ok content :=
  readBytes_eq_ok_iff.mpr (entryAt_eq_some_iff.mp h)

theorem readBytes_of_directory (h : tree.entryAt p = some .directory) :
    tree.readBytes p = .error (.file .isDirectory p.toText) := by
  obtain ⟨place, hr, hg⟩ := entryAt_eq_some_iff.mp h
  simp [readBytes, lookup, hr, hg, Except.map, bind, Except.bind, throw, throwThe,
    MonadExceptOf.throw]

section Below

theorem nameSize_append (s t : Text) : nameSize (s ++ t) = nameSize s + nameSize t := by
  simp [nameSize, Utf8.nameBytes]

theorem nameSize_toText_le_child (hp : p.parts ≠ []) (name : Text) :
    nameSize p.toText ≤ nameSize (p.child name).toText := by
  rw [Path.toText_child hp, nameSize_append, nameSize_append]
  omega

theorem TooLong.parts_ne_nil (h : tree.TooLong p) : p.parts ≠ [] := by
  obtain ⟨anchor, parts⟩ := p
  rintro rfl
  rcases h.2 with hl | ⟨front, _, _, _, hparts, _⟩
  · cases anchor <;> exact absurd hl (by decide)
  · exact absurd hparts.symm (by simp)

theorem TooLong.child (h : tree.TooLong p) (hn : IsName name) : tree.TooLong (p.child name) := by
  refine ⟨checkedText_child h.1 hn, ?_⟩
  rcases h.2 with hl | ⟨front, long, back, dir, hparts, hf, hd, hlong⟩
  · exact .inl (Nat.lt_of_lt_of_le hl (nameSize_toText_le_child h.parts_ne_nil name))
  · refine .inr ⟨front, long, back ++ [name], dir, ?_, hf, hd, hlong⟩
    rw [Path.child, hparts, List.append_assoc, List.cons_append]

theorem follow_of_entryAt {entry : Entry} (h : tree.entryAt p = some entry) :
    ∃ place, tree.follow (tree.origin p) p.parts = .ok place ∧ tree.get? place = some entry := by
  obtain ⟨place, hr, hg⟩ := entryAt_eq_some_iff.mp h
  refine ⟨place, ?_, hg⟩
  obtain ⟨t, ht, hl⟩ := usable_of_resolve hr
  rcases List.eq_nil_or_concat p.parts with hp | ⟨front, last, hp⟩
  · rw [resolve_of_no_parts ht hl hp] at hr
    cases hr
    rw [hp]
    rfl
  · rw [List.concat_eq_append] at hp
    rw [resolve_of_parts ht hl hp, mapError_eq_ok, bind_eq_ok] at hr
    obtain ⟨dir, hf, hs⟩ := hr
    rw [hp, follow_concat, hf]
    simp only [bind, Except.bind, follow_cons_of_ok hs, hg]
    rfl

theorem follow_child_of_file {content : Utf8.Bytes} (h : tree.entryAt p = some (.file content))
    (name : Text) :
    tree.follow (tree.origin (p.child name)) (p.child name).parts = .error .notDirectory := by
  obtain ⟨place, hf, hg⟩ := follow_of_entryAt h
  have hs : tree.step place name = .error .notDirectory := by simp [step, isDirectoryAt, hg]
  change tree.follow (tree.origin p) (p.parts ++ [name]) = _
  rw [follow_concat, hf]
  exact follow_cons_of_error hs []

theorem follow_child_of_error (h : tree.follow (tree.origin p) p.parts = .error obstacle)
    (name : Text) :
    tree.follow (tree.origin (p.child name)) (p.child name).parts = .error obstacle := by
  change tree.follow (tree.origin p) (p.parts ++ [name]) = _
  rw [follow_concat, h]
  rfl

/-- Nothing can be reached or made below a file. -/
theorem resolve_child_of_file {content : Utf8.Bytes} (h : tree.entryAt p = some (.file content))
    (hn : IsName name) :
    ∃ obstacle, obstacle ≠ .missing ∧
      tree.resolve (p.child name) = .error (.file obstacle (p.child name).toText) := by
  obtain ⟨_, hr, _⟩ := entryAt_eq_some_iff.mp h
  obtain ⟨_, hp, _⟩ := usable_of_resolve hr
  have hc := checkedText_child hp hn
  by_cases hl : longestPath < nameSize (p.child name).toText
  · exact ⟨.nameTooLong, by decide, resolve_of_tooLong ⟨hc, .inl hl⟩⟩
  · exact ⟨.notDirectory, by decide,
      resolve_of_follow_error hc (Nat.le_of_not_lt hl) (follow_child_of_file h name) (by decide)⟩

theorem entryAt_of_follow_error (h : tree.follow (tree.origin p) p.parts = .error obstacle) :
    tree.entryAt p = none := by
  cases he : tree.entryAt p with
  | none => rfl
  | some entry =>
    obtain ⟨_, hf, _⟩ := follow_of_entryAt he
    cases h.symm.trans hf

end Below

/-- What keeps a path from leading anywhere keeps a directory from being made there, with all
that lies above it. -/
theorem makeDirectories_of_resolve_error (h : tree.resolve p = .error (.file obstacle t))
    (ho : obstacle ≠ .missing) :
    tree.makeDirectories p = (.error (.file obstacle t), tree) := by
  have hm : tree.makeDirectory p = .error (.file obstacle t) := by
    rw [makeDirectory, h]
    exact bind_eq_error.mpr (.inl rfl)
  have hd : tree.isDirectory? p ≠ .ok true := by
    intro hd
    obtain ⟨_, hr, _⟩ := leadsTo_of_isDirectory? hd
    cases h.symm.trans hr
  have he : tree.ensureDirectory p = .error (.file obstacle t) := by
    simp only [ensureDirectory, hm]
  rw [makeDirectories]
  cases p.parts.length with
  | zero => rw [makeParents, he]
  | succ height =>
    rw [makeParents, he]
    cases obstacle with
    | missing => exact absurd rfl ho
    | _ => rfl

end CatalogTypes.FileTree
