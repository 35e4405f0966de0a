import CatalogTypes.Package.Index
import CatalogTypes.Proofs.Catalog.Walk
import CatalogTypes.Proofs.Files.Paths

/-! # Names of package files

The files of a package are named by letters, digits and points. The name of a unit's file tells
its identifier, so among well-formed identifiers only one gives a name that the package needs for
itself. A path of a package names its scope, the package and the file.
-/
namespace CatalogTypes
open Text Identifier

namespace Package

/-- A letter and then letters, digits and points. -/
def IsFileName (name : Text) : Prop :=
  ∃ c rest, name = c :: rest ∧ c.isLetter ∧ ∀ d ∈ rest, d.isAlphanumeric ∨ d = '.'

def indexName : Text := "index.ts"
def typesName : Text := "index.d.ts"
def descriptorName : Text := "package.json"

def packageNames : List Text := [indexName, typesName, descriptorName]

def fileNames (units : List TypeUnit) : List Text := units.map TypeUnit.fileName ++ packageNames

theorem isFileName_of_mem_packageNames {name : Text} (h : name ∈ packageNames) :
    IsFileName name := by
  have hs {c : CodePoint} {rest : Text} (hc : c.isLetter)
      (hr : rest.all fun d => d.isAlphanumeric || d = '.') :
      IsFileName (c :: rest) :=
    ⟨c, rest, rfl, hc, fun d hd => by simpa using List.all_eq_true.mp hr d hd⟩
  simp only [packageNames, List.mem_cons, List.not_mem_nil, or_false] at h
  rcases h with rfl | rfl | rfl
  · exact hs (by decide) (by decide)
  · exact hs (by decide) (by decide)
  · exact hs (by decide) (by decide)

theorem isFileName_fileName {u : TypeUnit} (h : WellFormed u.identifier) :
    IsFileName u.fileName := by
  obtain ⟨c, rest, he, hc, hr⟩ := h
  refine ⟨c, rest ++ ".ts", by rw [TypeUnit.fileName, he, List.cons_append], hc, ?_⟩
  intro d hd
  rcases List.mem_append.mp hd with hd | hd
  · exact .inl (hr d hd)
  · have ht : (text ".ts").all fun d => d.isAlphanumeric || d = '.' := by decide
    simpa using List.all_eq_true.mp ht d hd

theorem isFileName_of_mem_fileNames {units : List TypeUnit}
    (h : ∀ u ∈ units, WellFormed u.identifier) {name : Text} (hn : name ∈ fileNames units) :
    IsFileName name := by
  rcases List.mem_append.mp hn with hn | hn
  · obtain ⟨u, hu, rfl⟩ := List.mem_map.mp hn
    exact isFileName_fileName (h u hu)
  · exact isFileName_of_mem_packageNames hn

/-- The name of a unit's file is its identifier up to where the letters and digits end. -/
theorem fileName_eq_append_iff {u : TypeUnit} (h : WellFormed u.identifier) {stem ending : Text}
    (hs : stem.all CodePoint.isAlphanumeric) (he : Ends CodePoint.isAlphanumeric ending) :
    u.fileName = stem ++ ending ↔ u.identifier = stem ∧ ending = ".ts" := by
  constructor
  · intro hu
    obtain ⟨hi, ht⟩ :=
      run_append_inj h.isAlphanumeric (List.all_eq_true.mp hs) (ends_cons (by decide) _) he hu
    exact ⟨hi, ht.symm⟩
  · rintro ⟨hi, rfl⟩
    rw [TypeUnit.fileName, hi]

theorem fileName_eq_indexName_iff {u : TypeUnit} (h : WellFormed u.identifier) :
    u.fileName = indexName ↔ u.identifier = "index" := by
  have hi : indexName = text "index" ++ text ".ts" := rfl
  have he : Ends CodePoint.isAlphanumeric (text ".ts") := ends_cons (by decide) _
  rw [hi, fileName_eq_append_iff h (by decide) he]
  exact and_iff_left rfl

theorem fileName_ne_typesName {u : TypeUnit} (h : WellFormed u.identifier) :
    u.fileName ≠ typesName := by
  intro hn
  have hi : typesName = text "index" ++ text ".d.ts" := rfl
  exact absurd ((fileName_eq_append_iff h (by decide) (ends_cons (by decide) _)).mp (hn.trans hi)).2
    (by decide)

theorem fileName_ne_descriptorName {u : TypeUnit} (h : WellFormed u.identifier) :
    u.fileName ≠ descriptorName := by
  intro hn
  have hi : descriptorName = text "package" ++ text ".json" := rfl
  exact absurd ((fileName_eq_append_iff h (by decide) (ends_cons (by decide) _)).mp (hn.trans hi)).2
    (by decide)

theorem fileName_inj {u v : TypeUnit} : u.fileName = v.fileName ↔ u.identifier = v.identifier :=
  List.append_left_inj _

/-- No file of a package has the name of a catalog. -/
theorem catalogName_not_mem_fileNames {units : List TypeUnit}
    (h : ∀ u ∈ units, WellFormed u.identifier) (kind : CatalogKind) :
    kind.fileName ∉ fileNames units := by
  have hc : (∃ ending, kind.fileName = text "content" ++ ending ∧
        Ends CodePoint.isAlphanumeric ending ∧
      ending ≠ text ".ts") ∨ ∃ ending, kind.fileName = text "sections" ++ ending ∧
        Ends CodePoint.isAlphanumeric ending ∧ ending ≠ text ".ts" := by
    cases kind with
    | contentTypes => exact .inl ⟨text "-types.json", rfl, ends_cons (by decide) _, by decide⟩
    | sections => exact .inr ⟨text ".json", rfl, ends_cons (by decide) _, by decide⟩
  intro hn
  rcases List.mem_append.mp hn with hn | hn
  · obtain ⟨u, hu, he⟩ := List.mem_map.mp hn
    rcases hc with ⟨ending, hk, hd, hne⟩ | ⟨ending, hk, hd, hne⟩
    · exact hne ((fileName_eq_append_iff (h u hu) (by decide) hd).mp (he.trans hk)).2
    · exact hne ((fileName_eq_append_iff (h u hu) (by decide) hd).mp (he.trans hk)).2
  · revert hn
    cases kind <;> decide

section Paths
variable {name : Text}

theorem IsFileName.not_mem (h : IsFileName name) {c : CodePoint} (ha : c.isAlphanumeric = false)
    (hp : c ≠ '.') :
    c ∉ name := by
  obtain ⟨d, rest, rfl, hd, hr⟩ := h
  intro hc
  have hn : c.isAlphanumeric ∨ c = '.' := by
    rcases List.mem_cons.mp hc with rfl | hc
    · exact .inl (isAlphanumeric_of_isLetter hd)
    · exact hr c hc
  rcases hn with hn | hn
  · rw [ha] at hn
    contradiction
  · exact hp hn

theorem IsFileName.ne_of_not_isLetter (h : IsFileName name) {part : Text}
    (hp : part.head?.all fun c => !c.isLetter) : name ≠ part := by
  obtain ⟨c, rest, rfl, hc, _⟩ := h
  rintro rfl
  simp [hc] at hp

theorem ofText_fullName (kind : CatalogKind) :
    Path.ofText (fullName kind.name) = ⟨.relative, [scope, kind.name]⟩ := by
  cases kind <;> rfl

def pathOf (package name : Text) : Text := fullName package ++ "/" ++ name

theorem pathOf_inj {package other : Text} :
    pathOf package name = pathOf package other ↔ name = other :=
  List.append_right_inj _

theorem ofText_pathOf (package : Text) (h : IsFileName name) :
    Path.ofText (pathOf package name) = (Path.ofText (fullName package)).child name := by
  have hp : fullName package = ('@' : CodePoint) :: ("cms-types" ++ "/" ++ package) := rfl
  have hs : ('/' : CodePoint) ∉ name := h.not_mem (by decide) (by decide)
  rw [pathOf, hp]
  exact Path.ofText_append (by decide) _ hs (h.ne_of_not_isLetter rfl) (h.ne_of_not_isLetter rfl)

end Paths
end Package
end CatalogTypes
