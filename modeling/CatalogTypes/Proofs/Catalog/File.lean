import CatalogTypes.Catalog.File
import CatalogTypes.Proofs.Catalog.Walk
import CatalogTypes.Proofs.Files.Writing

/-! # The units of a catalog file

What a catalog file gives depends on the tree alone, and there only on the bytes of this file. If it
gives no units, then the catalog is to blame.
-/
namespace CatalogTypes
open FileTree Identifier

def unitsIn (tree : FileTree) (kind : CatalogKind) (p : Path) : Except Failure (List TypeUnit) := do
  let catalog ← Catalog.load tree p
  (Walk.ofCatalog kind catalog).result.mapError .schema

theorem result_unitsOfFile (kind : CatalogKind) (p : Path) (w : World) :
    ∃ log, (unitsOfFile kind p).result w = (unitsIn w.files kind p, { w with log := log }) := by
  simp only [unitsOfFile, walkFile, unitsIn, Run.result_bind, Run.result_onFiles]
  cases Catalog.load w.files p with
  | error e => exact ⟨w.log, rfl⟩
  | ok catalog =>
    simp only [Run.result_info, Run.result_noteAll, Run.result_pure]
    cases hw : (Walk.ofCatalog kind catalog).result with
    | error e => exact ⟨_, by simp [hw, bind, Except.bind]; rfl⟩
    | ok units => exact ⟨_, by simp [hw, bind, Except.bind]; rfl⟩

theorem isCatalogFault_of_unitsIn {tree : FileTree} {kind : CatalogKind} {p : Path} {e : Failure}
    (h : unitsIn tree kind p = .error e) : e.isCatalogFault := by
  rcases bind_eq_error.mp h with h | ⟨catalog, _, h⟩
  · unfold Catalog.load at h
    split at h
    · cases h
      rfl
    · cases h
    · cases h
      rfl
  · cases hw : (Walk.ofCatalog kind catalog).result with
    | error cause =>
      rw [hw] at h
      cases h
      rfl
    | ok units =>
      rw [hw] at h
      cases h

theorem wellFormed_of_unitsIn {tree : FileTree} {kind : CatalogKind} {p : Path}
    {units : List TypeUnit} (h : unitsIn tree kind p = .ok units) :
    ∀ u ∈ units, WellFormed u.identifier := by
  obtain ⟨catalog, _, hw⟩ := bind_eq_ok.mp h
  exact Walk.wellFormed_identifier (mapError_eq_ok.mp hw)

theorem load_eq_ok_iff {tree : FileTree} {p : Path} {catalog : List Json} :
    Catalog.load tree p = .ok catalog ↔ Catalog.readJson tree p = .ok (.array catalog) := by
  unfold Catalog.load
  cases Catalog.readJson tree p with
  | error e => simp
  | ok value => cases value <;> simp

/-- What can be read from the file of a catalog is all that matters for its units. -/
theorem unitsIn_congr {before after : FileTree} {kind : CatalogKind} {p : Path}
    {units : List TypeUnit}
    (h : ∀ bytes, after.readBytes p = .ok bytes ↔ before.readBytes p = .ok bytes) :
    unitsIn after kind p = .ok units ↔ unitsIn before kind p = .ok units := by
  rw [unitsIn, unitsIn, bind_eq_ok, bind_eq_ok]
  apply exists_congr
  intro catalog
  apply and_congr_left
  intro _
  rw [load_eq_ok_iff, load_eq_ok_iff, Catalog.readJson, Catalog.readJson, bind_eq_ok, bind_eq_ok]
  apply exists_congr
  intro content
  apply and_congr_left
  intro _
  rw [readText, readText, bind_eq_ok, bind_eq_ok]
  apply exists_congr
  intro bytes
  apply and_congr_left
  intro _
  exact h bytes

/-- A catalog has the same units as before if its file is none of those that changed. -/
theorem unitsIn_eq_ok_iff {changed : Location → Prop} {before after : FileTree} {kind : CatalogKind}
    {p : Path} (h : SameBut changed before after)
    (hp : ∀ place, before.resolve p = .ok place → ¬ changed place) {units : List TypeUnit} :
    unitsIn after kind p = .ok units ↔ unitsIn before kind p = .ok units :=
  unitsIn_congr fun _ => h.readBytes_eq_ok_iff hp

theorem exists_eq_append_of_resolve {tree : FileTree} {source : Path} {kind : CatalogKind}
    {place : Location} (h : tree.resolve (source ++ Path.ofText kind.fileName) = .ok place) :
    ∃ dir, place = dir ++ [kind.fileName] := by
  have hp : source ++ Path.ofText kind.fileName = source.child kind.fileName := by
    cases kind <;> rfl
  have hs : Utf8.settled kind.fileName = kind.fileName := by cases kind <;> rfl
  have hu : kind.fileName ≠ Path.up := by cases kind <;> decide
  rw [hp] at h
  obtain ⟨dir, _, hst⟩ := descend_concat_eq_ok.mp (resolve_eq_ok_iff.mp h).2
  obtain ⟨_, _, rfl⟩ := step_eq_ok hst
  exact ⟨dir, by rw [if_neg hu, hs]⟩

end CatalogTypes
