import CatalogTypes.Proofs.Files.Fresh
import CatalogTypes.Proofs.Generation.Disk
import CatalogTypes.Proofs.Generation.Memory
import CatalogTypes.Proofs.Package.Texts

/-! # Generation in a fresh directory

A generator that is created for a fresh directory makes the directories of its packages there, and
that is all that can be found in it. In a package that is empty nothing stands in the way of a file,
so what becomes of it is what becomes of it in a store.
-/
namespace CatalogTypes
open FileTree Package Identifier

/-- A text is the path of a location below another one, in its normal spelling. -/
def Spells (path : Text) (rest : Location) : Prop :=
  Path.ofText path = ⟨.relative, rest⟩ ∧ (⟨.relative, rest⟩ : Path).toText = path

theorem Spells.unique {path : Text} {rest other : Location} (h : Spells path rest)
    (h' : Spells path other) :
    rest = other :=
  congrArg Path.parts (h.1.symm.trans h'.1)

namespace Package

theorem spells_scope : Spells scope [scope] := ⟨rfl, rfl⟩

theorem spells_fullName (kind : CatalogKind) : Spells (fullName kind.name) [scope, kind.name] :=
  ⟨ofText_fullName kind, by cases kind <;> rfl⟩

theorem spells_pathOf (kind : CatalogKind) {name : Text} (h : IsFileName name) :
    Spells (pathOf kind.name name) [scope, kind.name, name] := by
  have hpath : Path.ofText (pathOf kind.name name) = ⟨.relative, [scope, kind.name, name]⟩ := by
    rw [ofText_pathOf kind.name h, ofText_fullName]
    rfl
  refine ⟨hpath, ?_⟩
  have hchild : (⟨.relative, [scope, kind.name, name]⟩ : Path) =
      Path.child ⟨.relative, [scope, kind.name]⟩ name := rfl
  rw [hchild, Path.toText_child (List.cons_ne_nil _ _), (spells_fullName kind).2]
  rfl

def packageDirectories : List Text := scope :: CatalogKind.all.map fun kind => fullName kind.name

theorem mem_packageDirectories {d : Text} :
    d ∈ packageDirectories ↔ d = scope ∨ ∃ kind : CatalogKind, d = fullName kind.name := by
  rw [packageDirectories, List.mem_cons, List.mem_map]
  apply or_congr_right
  constructor
  · rintro ⟨kind, _, rfl⟩
    exact ⟨kind, rfl⟩
  · rintro ⟨kind, rfl⟩
    exact ⟨kind, by cases kind <;> decide, rfl⟩

theorem spells_of_mem_packageDirectories {d : Text} (h : d ∈ packageDirectories) :
    ∃ rest, Spells d rest := by
  rcases mem_packageDirectories.mp h with rfl | ⟨kind, rfl⟩
  · exact ⟨_, spells_scope⟩
  · exact ⟨_, spells_fullName kind⟩

end Package

namespace Generator
variable {root : Path} {made : FileTree} {base top : Location} {kind : CatalogKind} {w : World}

def Short (root : Path) (path : Text) : Prop :=
  nameSize (Output.place root path).toText ≤ longestPath

instance (root : Path) (path : Text) : Decidable (Short root path) :=
  inferInstanceAs (Decidable (_ ≤ _))

theorem short_scope (hd : ∀ d ∈ packageDirectories, Short root d) : Short root scope :=
  hd _ (mem_packageDirectories.mpr (.inl rfl))

theorem short_fullName (hd : ∀ d ∈ packageDirectories, Short root d) (kind : CatalogKind) :
    Short root (fullName kind.name) :=
  hd _ (mem_packageDirectories.mpr (.inr ⟨kind, rfl⟩))

def onDisk (source root : Path) : Generator := ⟨source, .disk root⟩

def opened (tree : FileTree) (top : Location) : FileTree :=
  CatalogKind.all.foldl (fun tree kind => tree.put (top ++ [kind.name]) .directory)
    (tree.put top .directory)

section Opened
variable {tree : FileTree} {place rest : Location} {d : Text}

theorem get?_opened_of_ne (ht : place ≠ top)
    (hk : ∀ kind : CatalogKind, place ≠ top ++ [kind.name]) :
    (opened tree top).get? place = tree.get? place := by
  simp only [opened, CatalogKind.all, List.foldl_cons, List.foldl_nil]
  rw [get?_put_ne _ (hk _), get?_put_ne _ (hk _), get?_put_ne _ ht]

theorem get?_opened_package (tree : FileTree) (top : Location) (kind : CatalogKind) :
    (opened tree top).get? (top ++ [kind.name]) = some .directory := by
  simp only [opened, CatalogKind.all, List.foldl_cons, List.foldl_nil]
  cases kind with
  | contentTypes =>
    have hne : top ++ [CatalogKind.contentTypes.name] ≠ top ++ [CatalogKind.sections.name] := by
      simp [CatalogKind.name, text]
    rw [get?_put_ne _ hne, get?_put _ (List.concat_ne_nil _ _)]
  | sections => rw [get?_put _ (List.concat_ne_nil _ _)]

theorem get?_opened_top (tree : FileTree) (ht : top ≠ []) :
    (opened tree top).get? top = some .directory := by
  simp only [opened, CatalogKind.all, List.foldl_cons, List.foldl_nil]
  rw [get?_put_ne _ (by simp), get?_put_ne _ (by simp), get?_put _ ht]

theorem get?_opened_of_spells (made : FileTree) (base : Location) (hd : d ∈ packageDirectories)
    (hp : Spells d rest) :
    (opened made (base ++ [scope])).get? (base ++ rest) = some .directory := by
  rcases mem_packageDirectories.mp hd with rfl | ⟨kind, rfl⟩
  · rw [hp.unique spells_scope]
    exact get?_opened_top made (List.concat_ne_nil _ _)
  · have hplace : base ++ [scope, kind.name] = base ++ [scope] ++ [kind.name] := by simp
    rw [hp.unique (spells_fullName kind), hplace]
    exact get?_opened_package made _ kind

theorem get?_opened_eq_none (h : Fresh tree root made base) (hn : rest ≠ [])
    (hd : ∀ d ∈ packageDirectories, ¬ Spells d rest) :
    (opened made (base ++ [scope])).get? (base ++ rest) = none := by
  rw [get?_opened_of_ne, h.empty hn]
  · intro he
    rw [List.append_cancel_left he] at hd
    exact hd scope (mem_packageDirectories.mpr (.inl rfl)) spells_scope
  · intro kind he
    rw [List.append_assoc] at he
    rw [List.append_cancel_left he] at hd
    exact hd _ (mem_packageDirectories.mpr (.inr ⟨kind, rfl⟩)) (spells_fullName kind)

theorem isDirectoryAt_opened (h : Fresh tree root made base) (hn : rest ≠ []) :
    (opened made (base ++ [scope])).isDirectoryAt (base ++ rest) ↔
    ∃ d ∈ packageDirectories, Spells d rest := by
  constructor
  · intro hdir
    by_contra hd
    rw [isDirectoryAt, get?_opened_eq_none h hn fun d hm hp => hd ⟨d, hm, hp⟩] at hdir
    cases hdir
  · rintro ⟨d, hm, hp⟩
    rw [isDirectoryAt, get?_opened_of_spells made base hm hp]
    rfl

theorem get?_opened_ne_file (h : Fresh tree root made base) (rest : Location) (bytes : Utf8.Bytes) :
    (opened made (base ++ [scope])).get? (base ++ rest) ≠ some (.file bytes) := by
  intro hf
  by_cases hn : rest = []
  · have hd : (opened made (base ++ [scope])).isDirectoryAt base := by
      have hkeeps : Keeps made (opened made (base ++ [scope])) :=
        ((keeps_put_directory _).trans (keeps_put_directory _)).trans (keeps_put_directory _)
      exact hkeeps.isDirectoryAt h.leadsTo.2
    rw [hn, List.append_nil] at hf
    rw [isDirectoryAt, hf] at hd
    cases hd
  by_cases hd : ∃ d ∈ packageDirectories, Spells d rest
  · obtain ⟨d, hm, hp⟩ := hd
    rw [get?_opened_of_spells made base hm hp] at hf
    cases hf
  · rw [get?_opened_eq_none h hn fun d hm hp => hd ⟨d, hm, hp⟩] at hf
    cases hf

end Opened

theorem result_ensureDirectory_package (hl : w.files.LeadsTo (Output.place root scope) top)
    (hs : Short root (fullName kind.name)) (hg : w.files.get? (top ++ [kind.name]) = none) :
    (Output.ensureDirectory (fullName kind.name) (.disk root)).result w =
      (.ok (), { w with files := w.files.put (top ++ [kind.name]) .directory }) := by
  have hf : FitsIn (Output.place root scope) kind.name :=
    ⟨place_fullName root kind ▸ hs, by cases kind <;> decide⟩
  rw [result_ensureDirectory_disk, place_fullName, makeDirectories_child_of_leadsTo hl
    (isName_name kind) hf hg]

section Fresh
variable (h : Fresh w.files root made base) (hd : ∀ d ∈ packageDirectories, Short root d)
include h hd

theorem leadsTo_scope :
    (made.put (base ++ [scope]) .directory).LeadsTo (Output.place root scope)
      (base ++ [scope]) := by
  have hf : FitsIn root scope := ⟨place_scope root ▸ short_scope hd, by decide⟩
  rw [place_scope]
  exact leadsTo_put_child h.leadsTo isName_scope hf

theorem result_ensureDirectory_scope :
    (Output.ensureDirectory scope (.disk root)).result w =
      (.ok (), { w with files := made.put (base ++ [scope]) .directory }) := by
  have hf : FitsIn root scope := ⟨place_scope root ▸ short_scope hd, by decide⟩
  rw [result_ensureDirectory_disk, place_scope, h.makeDirectories_child isName_scope hf]

/-- A generator for a fresh directory can be created, and makes the directories of its packages
there. -/
theorem result_create_disk (source : Path) :
    (create source (.disk root)).result w =
      (.ok (onDisk source root), { w with files := opened made (base ++ [scope]) }) := by
  have hl := leadsTo_scope h hd
  have hempty (kind : CatalogKind) :
      (made.put (base ++ [scope]) .directory).get? (base ++ [scope] ++ [kind.name]) =
      none := by
    rw [get?_put_ne _ (by simp), List.append_assoc]
    exact h.empty (List.cons_ne_nil _ _)
  have hl' := (keeps_put_directory (base ++ [scope] ++ [CatalogKind.contentTypes.name])).leadsTo hl
  have hempty' : ((made.put (base ++ [scope]) .directory).put
        (base ++ [scope] ++ [CatalogKind.contentTypes.name])
      .directory).get? (base ++ [scope] ++ [CatalogKind.sections.name]) = none := by
    rw [get?_put_ne _ (by simp [CatalogKind.name, text]), hempty]
  have hfirst := result_ensureDirectory_package
    (w := { w with files := made.put (base ++ [scope]) .directory }) hl
      (short_fullName hd .contentTypes)
    (hempty .contentTypes)
  have hsecond := result_ensureDirectory_package
    (w := { w with
      files :=
        (made.put (base ++ [scope]) .directory).put
          (base ++ [scope] ++ [CatalogKind.contentTypes.name])
        .directory }) hl' (short_fullName hd .sections) hempty'
  have hthere (tree : FileTree) (ht : tree.LeadsTo (Output.place root scope) (base ++ [scope])) :
      (Output.ensureDirectory scope (.disk root)).result { w with files := tree } =
        (.ok (), { w with files := tree }) := by
    rw [result_ensureDirectory_disk, makeDirectories_of_leadsTo ht]
  simp only [create, prepare, Run.result_bind, result_ensureDirectory_scope h hd, hfirst,
    hthere _ hl', hsecond]
  rfl

theorem ready_opened : Ready (opened made (base ++ [scope])) root (base ++ [scope]) := by
  have hkeeps : Keeps (made.put (base ++ [scope]) .directory) (opened made (base ++ [scope])) :=
    (keeps_put_directory _).trans (keeps_put_directory _)
  have hscope := hkeeps.leadsTo (leadsTo_scope h hd)
  refine ⟨hscope, ?_⟩
  intro kind
  have hf : FitsIn (Output.place root scope) kind.name :=
    ⟨place_fullName root kind ▸ short_fullName hd kind, by cases kind <;> decide⟩
  constructor
  · rw [place_fullName, resolve_child hscope (isName_name kind), if_pos hf]
  · rw [isDirectoryAt, get?_opened_package]
    rfl

end Fresh

section Outcome
variable {g : Generator} {tree : FileTree}

/-- What keeps no file of a package from being written. -/
structure Writable (root : Path) (kind : CatalogKind) (units : List TypeUnit) : Prop where
  short : ∀ f ∈ files kind.name units, Short root f.path
  name : ∀ u ∈ units, nameSize u.fileName ≤ longestName
  bytes : ∀ f ∈ files kind.name units, f.content.HasBytes

theorem firstFailure?_of_writable (h : Ready tree root top) {units : List TypeUnit}
    (hi : ∀ u ∈ units, WellFormed u.identifier) (hw : Writable root kind units)
    (hg : ∀ name, tree.get? (top ++ [kind.name] ++ [name]) = none) :
    firstFailure? tree root (files kind.name units) = none := by
  refine List.findSome?_eq_none_iff.mpr fun f hf => ?_
  obtain ⟨name, hn, hp⟩ := exists_name_of_mem_files hf
  have hname := isFileName_of_mem_fileNames hi hn
  have hplace : Output.place root f.path = (Output.place root (fullName kind.name)).child name :=
    hp ▸ place_pathOf root kind hname
  have hpackage : ∀ name ∈ packageNames, nameSize name ≤ longestName := by decide
  have hsize : nameSize name ≤ longestName := by
    rcases List.mem_append.mp hn with hn | hn
    · obtain ⟨u, hu, rfl⟩ := List.mem_map.mp hn
      exact hw.name u hu
    · exact hpackage name hn
  have hopens : tree.Opens (Output.place root (fullName kind.name)) (top ++ [kind.name]) name := by
    refine ⟨⟨hplace ▸ hw.short f hf, hsize⟩, ?_⟩
    rw [isDirectoryAt, hg]
    rfl
  rw [failure?, hplace, (writeText_child_of_opens (h.package kind) hname.isName hopens f.content).1,
    encoded, Utf8.encode_of_hasBytes (hw.bytes f hf)]

/-- A package that is empty at first is generated on disk as it is in an empty store. -/
theorem outcome_of_writable (h : Ready tree root top)
    (hw : ∀ units, unitsIn tree kind (g.catalogPath kind) = .ok units → Writable root kind units)
    (hg : ∀ name, tree.get? (top ++ [kind.name] ++ [name]) = none) :
    (g.outcome root kind tree).1 = .ok (countIn kind [] (unitsIn tree kind (g.catalogPath kind))) ∧
      ∀ name, (g.outcome root kind tree).2.get? (top ++ [kind.name] ++ [name]) =
        ((stored (contribution kind [] (unitsIn tree kind (g.catalogPath kind))) []).lookup
          (pathOf kind.name name)).map
          fun content => .file (bytesOf content) := by
  cases hu : unitsIn tree kind (g.catalogPath kind) with
  | error e =>
    rw [outcome_of_error hu]
    exact ⟨rfl, hg⟩
  | ok units =>
    have hi := wellFormed_of_unitsIn hu
    have hf := firstFailure?_of_writable h hi (hw units hu) hg
    have hok := writeFiles_eq (h.package kind) (liesIn_files root kind hi)
    rw [hf] at hok
    have hm := mirrors_files h kind hi hok
    have hnone : refusal? [] (files kind.name units) = none := by simp [refusal?, refuses]
    rw [outcome_of_ok hu, contribution, accepted_nil, countIn, hnone]
    refine ⟨by rw [hok]; rfl, ?_⟩
    intro name
    rw [hm name, hg, Option.or_none]

section TooLong
variable {units : List TypeUnit} {f : OutputFile} {e : Failure} (h : Ready tree root top)
  (hi : ∀ u ∈ units, WellFormed u.identifier)
include h hi

theorem isFileFault_of_failure? (hf : f ∈ files kind.name units) (hb : f.content.HasBytes)
    (he : failure? tree root f = some e) : e.isFileFault := by
  obtain ⟨name, _, hn, hplace⟩ := liesIn_files root kind hi f hf
  by_cases ho : tree.Opens (Output.place root (fullName kind.name)) (top ++ [kind.name]) name
  · rw [failure?, hplace, (writeText_child_of_opens (h.package kind) hn ho f.content).1, encoded,
      Utf8.encode_of_hasBytes hb] at he
    cases he
  · rw [failure?, hplace, writeText_child_of_not_opens (h.package kind) hn ho] at he
    cases he
    rfl

theorem isSome_failure?_of_not_short (hf : f ∈ files kind.name units) (hs : ¬ Short root f.path) :
    (failure? tree root f).isSome := by
  obtain ⟨name, _, hn, hplace⟩ := liesIn_files root kind hi f hf
  have ho : ¬ tree.Opens (Output.place root (fullName kind.name)) (top ++ [kind.name]) name := by
    rintro ⟨hfit, _⟩
    rw [Short, hplace] at hs
    exact hs hfit.1
  rw [failure?, hplace, writeText_child_of_not_opens (h.package kind) hn ho]
  rfl

omit hi in
theorem outcome_of_not_short (hu : unitsIn tree kind (g.catalogPath kind) = .ok units)
    (hb : ∀ f ∈ files kind.name units, f.content.HasBytes) (hf : f ∈ files kind.name units)
    (hs : ¬ Short root f.path) : (g.outcome root kind tree).1 = .ok 0 := by
  have hi := wellFormed_of_unitsIn hu
  obtain ⟨e, he⟩ := Option.isSome_iff_exists.mp
    (List.findSome?_isSome_iff.mpr ⟨f, hf, isSome_failure?_of_not_short h hi hf hs⟩)
  obtain ⟨f', hf', hfe⟩ := List.exists_of_findSome?_eq_some he
  have hfault := isFileFault_of_failure? h hi hf' (hb f' hf') hfe
  rw [outcome_answer h hu, firstFailure?, he]
  simp [counted, hfault]

end TooLong

end Outcome

end Generator
end CatalogTypes
