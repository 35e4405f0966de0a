import Mathlib.Data.Prod.Basic
import CatalogTypes.Proofs.Generation.Creation
import CatalogTypes.Proofs.Generation.Regeneration

/-! # Directories and stores

A package is on disk what it would be in a store, byte for byte, when it is generated in a fresh
directory. The catalogs must be the same before and after the directories were made, their strings
must have bytes, and no path below the root may be too long for files.
-/
namespace CatalogTypes
open FileTree Package Identifier

namespace FileTree

/-- A tree has the files and the directories of a store below a directory, and nothing else. -/
structure Holds (tree : FileTree) (base : Location) (m : Memory) : Prop where
  spelled {path : Text} (h : m.contains path) : ∃ rest, Spells path rest
  file (rest : Location) (bytes : Utf8.Bytes) : tree.get? (base ++ rest) = some (.file bytes) ↔
    ∃ path content, Spells path rest ∧ m.read path = .ok content ∧ Utf8.encode content = .ok bytes
  directory {rest : Location} (h : rest ≠ []) :
    tree.isDirectoryAt (base ++ rest) ↔ ∃ path ∈ m.directories, Spells path rest

end FileTree

namespace Package
variable {path content : Text} {kind : CatalogKind}

def openedStore : Memory :=
  prepared CatalogKind.sections.name (prepared CatalogKind.contentTypes.name (.empty []))

theorem directories_openedStore : openedStore.directories = packageDirectories := by decide

end Package

namespace Generator
variable {source root : Path} {tree : FileTree} {kind : CatalogKind} {top base : Location}
  {g : Generator}

def generation (source : Path) (output : Output) : Run Counts := do
  let g ← create source output
  g.generateAll

section Catalogs
variable {before after : FileTree}

/-- The catalogs lie apart from the directories that were made: no way leads to them that was
not there before. -/
def Apart (source : Path) (before after : FileTree) : Prop :=
  ∀ (kind : CatalogKind) (place : Location), after.resolve ((inMemory source).catalogPath kind) =
    .ok place →
    before.resolve ((inMemory source).catalogPath kind) = .ok place

theorem isName_fileName (kind : CatalogKind) : IsName kind.fileName :=
  isName_of_all (by cases kind <;> rfl) (by cases kind <;> rfl) (by cases kind <;> decide)

theorem apart_of_leadsTo {home : Location} (hg : Grows before after)
    (h : before.LeadsTo source home) :
    Apart source before after := by
  intro kind place hr
  have hp : (inMemory source).catalogPath kind = source.child kind.fileName := by cases kind <;> rfl
  rw [hp, resolve_child (hg.keeps.leadsTo h) (isName_fileName kind)] at hr
  rw [hp, resolve_child h (isName_fileName kind)]
  exact hr

theorem Apart.unitsFor_iff (ha : Apart source before after) (hg : Grows before after)
    {units : List TypeUnit} :
    unitsFor source kind after = .ok units ↔ unitsFor source kind before = .ok units := by
  refine unitsIn_congr fun bytes => ?_
  rw [readBytes_eq_ok_iff, readBytes_eq_ok_iff]
  apply exists_congr
  intro place
  rw [hg.get?_file place bytes]
  apply and_congr_left
  intro _
  exact ⟨ha kind place, hg.keeps.resolve⟩

end Catalogs

section Fitting
variable (source root : Path) (tree : FileTree)

def SchemasHaveBytes : Prop :=
  ∀ (kind : CatalogKind) (catalog : List Json),
    Catalog.load tree ((inMemory source).catalogPath kind) = .ok catalog →
    ∀ o ∈ kind.occurrences catalog, o.schema.HasBytes

def NamesFit : Prop :=
  ∀ kind units, unitsFor source kind tree = .ok units →
    ∀ u ∈ units, nameSize u.fileName ≤ longestName

structure PathsFit : Prop where
  directory : ∀ d ∈ packageDirectories, Short root d
  file : ∀ kind units, unitsFor source kind tree = .ok units →
    ∀ f ∈ files kind.name units, Short root f.path

end Fitting

section Found
variable {found other : Except Failure (List TypeUnit)}

theorem countIn_congr (kind : CatalogKind) (h : ∀ units, found = .ok units ↔ other = .ok units)
    (readOnly : List Text) :
    countIn kind readOnly found = countIn kind readOnly other ∧
      contribution kind readOnly found = contribution kind readOnly other := by
  cases found with
  | ok units =>
    rw [(h units).mp rfl]
    exact ⟨rfl, rfl⟩
  | error e =>
    cases other with
    | ok units => cases (h units).mpr rfl
    | error e' => exact ⟨rfl, rfl⟩

end Found

section Disk

def treeAfterAll (g : Generator) (root : Path) (tree : FileTree) : FileTree :=
  (g.outcome root .sections (g.outcome root .contentTypes tree).2).2

variable (h : Ready tree root top)
include h

theorem sameBut_treeAfterAll :
    SameBut (fun place => ∃ kind, IsOutput top kind place) tree (g.treeAfterAll root tree) := by
  have hfirst : SameBut (IsOutput top .contentTypes) tree (g.outcome root .contentTypes tree).2 :=
    sameBut_outcome h
  have hsecond : SameBut (IsOutput top .sections) _ (g.treeAfterAll root tree) :=
    sameBut_outcome (h.of_sameBut hfirst)
  exact (hfirst.mono fun place hp => ⟨_, hp⟩).trans (hsecond.mono fun place hp => ⟨_, hp⟩)

theorem get?_treeAfterAll (kind : CatalogKind) (name : Text) :
    (g.treeAfterAll root tree).get? (top ++ [kind.name] ++ [name]) =
      (g.outcome root kind tree).2.get? (top ++ [kind.name] ++ [name]) := by
  have hp : top ++ [kind.name] <+: top ++ [kind.name] ++ [name] := List.prefix_append _ _
  cases kind with
  | contentTypes =>
    have hfirst : SameBut (IsOutput top .contentTypes) tree (g.outcome root .contentTypes tree).2 :=
      sameBut_outcome h
    exact (sameBut_outcome (h.of_sameBut hfirst)).get? (not_isOutput_below (by decide) hp)
  | sections => exact (outcome_sections h).2.get? (not_isOutput_below (by decide) hp)

end Disk

section Held
variable {path content : Text} (source : Path) (kind : CatalogKind) (tree : FileTree)

/-- What a store that was empty holds once a package was generated. -/
def held : List (Text × Text) := stored (contribution kind [] (unitsFor source kind tree)) []

variable {source kind tree}

theorem of_lookup_held (h : (held source kind tree).lookup path = some content) :
    ∃ units, unitsFor source kind tree = .ok units ∧
      ∃ f ∈ files kind.name units, f.path = path ∧ f.content = content := by
  rcases of_lookup_stored h with hn | ⟨f, hf, hp⟩
  · cases hn
  · obtain ⟨units, hu, hm⟩ := of_mem_contribution hf
    exact ⟨units, hu, f, hm, hp⟩

theorem exists_name_of_lookup_held (h : (held source kind tree).lookup path = some content) :
    ∃ name, IsFileName name ∧ path = pathOf kind.name name := by
  obtain ⟨units, hu, f, hf, rfl, _⟩ := of_lookup_held h
  obtain ⟨name, hn, hp⟩ := exists_name_of_mem_files hf
  exact ⟨name, isFileName_of_mem_fileNames (wellFormed_of_unitsIn hu) hn, hp⟩

/-- A store in which both packages were generated holds each of them as if it were the only one. -/
theorem lookup_storeAfterAll {m : Memory} (hf : m.files = []) (hr : m.readOnly = [])
    (kind : CatalogKind) (name : Text) :
    (storeAfterAll source tree CatalogKind.all m).files.lookup (pathOf kind.name name) =
      (held source kind tree).lookup (pathOf kind.name name) := by
  have hother {other : CatalogKind} (hk : kind ≠ other) :
      ∀ f ∈ contribution other [] (unitsFor source other tree), pathOf kind.name name ≠ f.path := by
    intro f hm
    obtain ⟨name', _, hp⟩ := exists_name_of_mem_contribution source other tree hm
    rw [hp]
    exact pathOf_ne hk name name'
  rw [files_storeAfterAll, hf, hr]
  simp only [CatalogKind.all, List.flatMap_cons, List.flatMap_nil, List.append_nil, stored_append]
  cases kind with
  | contentTypes => exact lookup_stored_of_not_mem (hother (by decide))
  | sections => exact lookup_stored_congr (lookup_stored_of_not_mem (hother (by decide))) _

theorem of_lookup_storeAfterAll {m : Memory} (hf : m.files = []) (hr : m.readOnly = [])
    (h : (storeAfterAll source tree CatalogKind.all m).files.lookup path = some content) :
    ∃ (kind : CatalogKind) (name : Text), IsFileName name ∧ path = pathOf kind.name name ∧
      (held source kind tree).lookup path = some content := by
  have hstored := h
  rw [files_storeAfterAll, hf, hr] at hstored
  rcases of_lookup_stored hstored with hn | ⟨f, hm, rfl, _⟩
  · cases hn
  · obtain ⟨kind, _, hm⟩ := List.mem_flatMap.mp hm
    obtain ⟨name, _, hp⟩ := exists_name_of_mem_contribution source kind tree hm
    rw [hp, lookup_storeAfterAll hf hr] at h
    obtain ⟨name', hn, hp'⟩ := exists_name_of_lookup_held h
    rw [pathOf_inj.mp hp'] at hp h
    exact ⟨kind, name', hn, hp, hp ▸ h⟩

end Held

section Agreement
variable {after made : FileTree} {rest : Location} {bytes : Utf8.Bytes}

theorem directories_generated :
    (storeAfterAll source tree CatalogKind.all openedStore).directories = packageDirectories := by
  rw [directories_storeAfterAll, directories_openedStore]
  intro kind _ d hd
  rw [openedStore, mem_directories_prepared, mem_directories_prepared]
  cases kind with
  | contentTypes => exact .inr (.inr (or_assoc.mp (.inl hd.2)))
  | sections => exact or_assoc.mp (.inl hd.2)

theorem append_package (base : Location) (kind : CatalogKind) (name : Text) :
    base ++ [scope, kind.name, name] = base ++ [scope] ++ [kind.name] ++ [name] := by simp

variable (h : Fresh tree root made base)
  (hs : SameBut (fun place => ∃ kind, IsOutput (base ++ [scope]) kind place)
    (opened made (base ++ [scope])) after)
  (hg : ∀ (kind : CatalogKind) name, after.get? (base ++ [scope] ++ [kind.name] ++ [name]) =
    ((held source kind tree).lookup (pathOf kind.name name)).map fun content =>
      .file (bytesOf content))
include h hs hg

theorem exists_held_of_file (hf : after.get? (base ++ rest) = some (.file bytes)) :
    ∃ (kind : CatalogKind) (name content : Text), rest = [scope, kind.name, name] ∧
    IsFileName name ∧
      (held source kind tree).lookup (pathOf kind.name name) = some content ∧
      bytesOf content = bytes := by
  by_cases hout : ∃ kind, IsOutput (base ++ [scope]) kind (base ++ rest)
  · obtain ⟨kind, name, _, heq⟩ := hout
    rw [heq, hg] at hf
    obtain ⟨content, hl, hfile⟩ := Option.map_eq_some_iff.mp hf
    obtain ⟨name', hn, hp⟩ := exists_name_of_lookup_held hl
    rw [← append_package] at heq
    rw [← pathOf_inj.mp hp] at hn
    exact ⟨kind, name, content, List.append_cancel_left heq, hn, hl, Entry.file.inj hfile⟩
  · rw [hs.get? hout] at hf
    exact absurd hf (get?_opened_ne_file h rest bytes)

/-- A tree that has the packages as an empty store would hold them, and is else as it was made,
holds the store in which both were generated. -/
theorem holds_storeAfterAll
    (hb : ∀ kind path content, (held source kind tree).lookup path = some content →
      content.HasBytes) :
    Holds after base (storeAfterAll source tree CatalogKind.all openedStore) := by
  have hbytes {kind : CatalogKind} {path content : Text}
      (hl : (held source kind tree).lookup path = some content) :
      Utf8.encode content = .ok (bytesOf content) := by
    rw [bytesOf, Utf8.encode_of_hasBytes (hb kind path content hl)]
    rfl
  refine ⟨?_, ?_, ?_⟩
  · intro path hc
    rcases Bool.or_eq_true_iff.mp hc with hf | hd
    · obtain ⟨content, hl⟩ := Option.isSome_iff_exists.mp hf
      obtain ⟨kind, name, hn, rfl, _⟩ := of_lookup_storeAfterAll rfl rfl hl
      exact ⟨_, spells_pathOf kind hn⟩
    · rw [directories_generated] at hd
      exact spells_of_mem_packageDirectories (by simpa using hd)
  · intro rest bytes
    constructor
    · intro hf
      obtain ⟨kind, name, content, rfl, hn, hl, rfl⟩ := exists_held_of_file h hs hg hf
      exact ⟨_, content, spells_pathOf kind hn,
        Memory.read_eq_ok_iff.mpr ((lookup_storeAfterAll rfl rfl kind name).trans hl), hbytes hl⟩
    · rintro ⟨path, content, hp, hr, he⟩
      obtain ⟨kind, name, hn, rfl, hl⟩ :=
        of_lookup_storeAfterAll rfl rfl (Memory.read_eq_ok_iff.mp hr)
      rw [hp.unique (spells_pathOf kind hn), append_package, hg, hl,
        ← Except.ok.inj ((hbytes hl).symm.trans he)]
      rfl
  · intro rest hn
    rw [hs.isDirectoryAt, directories_generated]
    exact isDirectoryAt_opened h hn

end Agreement

section Results
variable {w : World} {made : FileTree}

theorem result_generation_memory (source : Path) (hm : w.memory = .empty []) :
    ∃ log, (generation source .memory).result w =
      (.ok (countsIn source w),
        { w with
          memory := storeAfterAll source w.files CatalogKind.all openedStore, log := log }) := by
  have hc : (create source .memory).result w =
      (.ok (inMemory source), { w with memory := openedStore }) := by
    rw [openedStore, ← hm]
    rfl
  have hcounts : countsIn source { w with memory := openedStore } = countsIn source w := by
    rw [countsIn, countsIn, hm]
    rfl
  obtain ⟨log, h⟩ := result_generateAll_memory source { w with memory := openedStore }
  rw [generation, Run.result_bind, hc]
  simp only
  rw [h, hcounts]
  exact ⟨log, rfl⟩

section Units
variable {units : List TypeUnit} (hu : unitsFor source kind tree = .ok units)
include hu

theorem SchemasHaveBytes.files (hb : SchemasHaveBytes source tree) :
    ∀ f ∈ files kind.name units, f.content.HasBytes := by
  obtain ⟨catalog, hl, hw⟩ := bind_eq_ok.mp hu
  exact hasBytes_of_mem_files (mapError_eq_ok.mp hw) (hb kind catalog hl)

theorem writable_of_unitsFor (hb : SchemasHaveBytes source tree) (hn : NamesFit source tree)
    (hp : PathsFit source root tree) : Writable root kind units :=
  ⟨hp.file kind units hu, hn kind units hu, hb.files hu⟩

end Units

section Fresh
variable (h : Fresh w.files root made base) (hd : ∀ d ∈ packageDirectories, Short root d)
include h hd

/-- Both packages are generated from the tree with their directories, each as if it were the only
one. -/
theorem generation_eq (source : Path) :
    (((generation source (.disk root)).result w).1 = do
      let contentTypes ←
        ((onDisk source root).outcome root .contentTypes (opened made (base ++ [scope]))).1
      let sections ← ((onDisk source root).outcome root .sections (opened made (base ++ [scope]))).1
      return ⟨contentTypes, sections⟩) ∧
    ∀ counts, ((generation source (.disk root)).result w).1 = .ok counts →
      ((generation source (.disk root)).result w).2.files =
        (onDisk source root).treeAfterAll root (opened made (base ++ [scope])) := by
  have hready := ready_opened h hd
  have hsections := (outcome_sections (g := onDisk source root) hready).1
  rw [generation, Run.result_bind, result_create_disk h hd, hsections]
  exact generateAll_eq (w := { w with files := opened made (base ++ [scope]) }) rfl hready

theorem grows_opened : Grows w.files (opened made (base ++ [scope])) := by
  have hg := grows_of_create Path.here root w
  rw [result_create_disk h hd] at hg
  exact hg

section Zero
variable (ha : Apart source w.files (opened made (base ++ [scope])))
include ha

theorem outcome_fresh_of_error {e : Failure} (hu : unitsFor source kind w.files = .error e) :
    ((onDisk source root).outcome root kind (opened made (base ++ [scope]))).1 = .ok 0 := by
  cases hopened : unitsFor source kind (opened made (base ++ [scope])) with
  | error e' => exact congrArg Prod.fst (outcome_of_error hopened)
  | ok units =>
    rw [(ha.unitsFor_iff (grows_opened h hd)).mp hopened] at hu
    cases hu

theorem outcome_fresh_of_not_short {units : List TypeUnit} {f : OutputFile}
    (hu : unitsFor source kind w.files = .ok units) (hb : SchemasHaveBytes source w.files)
    (hf : f ∈ files kind.name units) (hs : ¬ Short root f.path) :
    ((onDisk source root).outcome root kind (opened made (base ++ [scope]))).1 = .ok 0 :=
  outcome_of_not_short (ready_opened h hd) ((ha.unitsFor_iff (grows_opened h hd)).mpr hu)
    (hb.files hu) hf hs

end Zero

variable (hw : ∀ kind units, unitsFor source kind (opened made (base ++ [scope])) = .ok units →
  Writable root kind units)
include hw

/-- A package is generated in a fresh directory as in an empty store. -/
theorem outcome_fresh (kind : CatalogKind) :
    ((onDisk source root).outcome root kind (opened made (base ++ [scope]))).1 =
        .ok (countIn kind [] (unitsFor source kind (opened made (base ++ [scope])))) ∧
      ∀ name, ((onDisk source root).outcome root kind (opened made (base ++ [scope]))).2.get?
        (base ++ [scope] ++ [kind.name] ++ [name]) =
          ((held source kind (opened made (base ++ [scope]))).lookup (pathOf kind.name name)).map
            fun content => .file (bytesOf content) := by
  refine outcome_of_writable (ready_opened h hd) (hw kind) fun name => ?_
  have hempty : made.get? (base ++ [scope] ++ [kind.name] ++ [name]) = none := by
    rw [List.append_assoc, List.append_assoc]
    exact h.empty (List.cons_ne_nil _ _)
  rw [get?_opened_of_ne, hempty]
  · intro he
    have hl := congrArg List.length he
    simp at hl
  · intro other he
    have hl := congrArg List.length he
    simp at hl

theorem result_generation_disk :
    ∃ disk, (generation source (.disk root)).result w =
        (.ok (countsIn source
            { w with files := opened made (base ++ [scope]), memory := .empty [] }), disk) ∧
      disk.files = (onDisk source root).treeAfterAll root (opened made (base ++ [scope])) := by
  obtain ⟨ha, hf⟩ := generation_eq h hd source
  rw [(outcome_fresh h hd hw .contentTypes).1, (outcome_fresh h hd hw .sections).1] at ha
  exact ⟨_, Prod.ext ha rfl, hf _ ha⟩

end Fresh
end Results

/-- A generator for a fresh directory and one for an empty store give the same numbers of types, and
the directory then holds what the store holds: the same directories and the same files, with the
bytes of the same texts. The strings of the schemas must have bytes, file names may have at most 255
of them, and paths at most 4095. -/
theorem disk_agrees_with_store {source root : Path} {w : World} {made : FileTree} {base : Location}
    (hm : w.memory = .empty []) (hr : Fresh w.files root made base)
    (ha : Apart source w.files ((create source (.disk root)).result w).2.files)
    (hb : SchemasHaveBytes source w.files) (hn : NamesFit source w.files)
    (hp : PathsFit source root w.files) :
    ∃ counts disk store, (generation source (.disk root)).result w = (.ok counts, disk) ∧
      (generation source .memory).result w = (.ok counts, store) ∧
      Holds disk.files base store.memory := by
  have hd := hp.directory
  rw [result_create_disk hr hd] at ha
  have hsame (kind : CatalogKind) (units : List TypeUnit) :
      unitsFor source kind (opened made (base ++ [scope])) = .ok units ↔
      unitsFor source kind w.files = .ok units :=
    ha.unitsFor_iff (grows_opened hr hd)
  have hw : ∀ kind units, unitsFor source kind (opened made (base ++ [scope])) = .ok units →
      Writable root kind units :=
    fun kind units hu => writable_of_unitsFor ((hsame kind units).mp hu) hb hn hp
  have hcongr (kind : CatalogKind) := countIn_congr kind (hsame kind) []
  have hheld (kind : CatalogKind) :
      held source kind (opened made (base ++ [scope])) = held source kind w.files := by
    rw [held, held, (hcongr kind).2]
  have hcounts : countsIn source
      { w with files := opened made (base ++ [scope]), memory := .empty [] } =
      countsIn source w := by
    simp only [countsIn, hm, Memory.empty, (hcongr _).1]
  obtain ⟨disk, hdisk, hfiles⟩ := result_generation_disk hr hd hw
  obtain ⟨log, hstore⟩ := result_generation_memory source hm
  rw [hcounts] at hdisk
  refine ⟨_, disk, _, hdisk, hstore, ?_⟩
  rw [hfiles]
  refine holds_storeAfterAll hr (sameBut_treeAfterAll (ready_opened hr hd)) ?_ ?_
  · intro kind name
    rw [get?_treeAfterAll (ready_opened hr hd), (outcome_fresh hr hd hw kind).2, hheld]
  · intro kind path content hl
    obtain ⟨units, hu, f, hm, _, rfl⟩ := of_lookup_held hl
    exact hb.files hu f hm

def deepName : Text := List.replicate 255 ('d' : CodePoint)

def deepWorld : World :=
  { withCatalogs "[" oneSection with files :=
    (withCatalogs "[" oneSection).files.put [deepName] .directory }

/-- A path of 3884 bytes that leads into the directory and out of it again. -/
def deepPath : Path := ⟨.relative, (List.replicate 15 [deepName, Path.up]).flatten⟩

def freshName : Text := List.replicate 179 ('r' : CodePoint)

theorem fresh_deepWorld {p : Path} {name : Text} (h : deepWorld.files.LeadsTo p [])
    (hn : IsName name) (hf : FitsIn p name) (hd : name ≠ deepName)
    (hk : ∀ kind : CatalogKind, name ≠ kind.fileName) :
    Fresh deepWorld.files (p.child name) (deepWorld.files.put [name] .directory) [name] := by
  refine fresh_child rfl h hn hf fun rest => ?_
  have hcatalogs : (withCatalogs "[" oneSection).files.get? (name :: rest) = none := by
    simp [withCatalogs, FileTree.get?, hk]
  exact (get?_put_ne _ (by simp [hd]) _).trans hcatalogs

theorem apart_deepWorld (root : Path) :
    Apart Path.here deepWorld.files ((create Path.here (.disk root)).result deepWorld).2.files :=
  apart_of_leadsTo (grows_of_create Path.here root deepWorld) ⟨rfl, rfl⟩

theorem load_oneSection {p : Path} (h : tree.readBytes p = .ok (Utf8.encodeAll oneSection)) :
    Catalog.load tree p = .ok [.object [("name", .string "A"), ("schema", .object [])]] := by
  have hd : Utf8.decode (Utf8.encodeAll oneSection) = .ok oneSection :=
    eq_ok_of_toOption (by decide +kernel)
  have hj : Json.decode oneSection.unifyLineEndings =
      .ok (.array [.object [("name", .string "A"), ("schema", .object [])]]) := by cbv
  rw [load_eq_ok_iff, Catalog.readJson, readText, h]
  simp only [bind, Except.bind, hd, mapError_ok, pure, Except.pure, hj]

theorem hasBytes_deepWorld : SchemasHaveBytes Path.here deepWorld.files := by
  intro kind catalog h
  cases kind with
  | contentTypes =>
    have hn : (Catalog.load deepWorld.files
          ((inMemory Path.here).catalogPath .contentTypes)).toOption.isNone := by
      decide +kernel
    rw [h] at hn
    cases hn
  | sections =>
    have hl : Catalog.load deepWorld.files ((inMemory Path.here).catalogPath .sections) = .ok _ :=
      load_oneSection (eq_ok_of_toOption (by decide +kernel))
    rw [h] at hl
    cases hl
    intro o ho
    cases List.mem_singleton.mp ho
    exact .object nofun nofun

theorem namesFit_deepWorld : NamesFit Path.here deepWorld.files := by
  intro kind units h
  have hall : (unitsFor Path.here kind deepWorld.files).toOption.all fun units =>
      units.all fun u => nameSize u.fileName ≤ longestName := by cases kind <;> decide +kernel
  rw [h] at hall
  exact fun u hu => of_decide_eq_true (List.all_eq_true.mp hall u hu)

theorem disk_agrees_with_store_section : ∃ disk store,
    (generation Path.here (.disk (Path.here.child "out"))).result deepWorld = (.ok ⟨0, 1⟩, disk) ∧
      (generation Path.here .memory).result deepWorld = (.ok ⟨0, 1⟩, store) ∧
      Holds disk.files ["out"] store.memory := by
  have hfresh : Fresh deepWorld.files (Path.here.child "out")
      (deepWorld.files.put ["out"] .directory) ["out"] :=
    fresh_deepWorld ⟨rfl, rfl⟩ (isName_of_all (by decide) rfl (by decide)) (by decide) (by decide)
      (by intro kind; cases kind <;> decide)
  have hpaths : PathsFit Path.here (Path.here.child "out") deepWorld.files := by
    refine ⟨by decide, ?_⟩
    intro kind units h
    have hall : (unitsFor Path.here kind deepWorld.files).toOption.all fun units =>
        (files kind.name units).all fun f => Short (Path.here.child "out") f.path := by
          cases kind <;> decide +kernel
    rw [h] at hall
    exact fun f hf => of_decide_eq_true (List.all_eq_true.mp hall f hf)
  obtain ⟨counts, disk, store, hdisk, hstore, hholds⟩ :=
    disk_agrees_with_store rfl hfresh (apart_deepWorld _)
    hasBytes_deepWorld namesFit_deepWorld hpaths
  have hcounts : ((generation Path.here .memory).result deepWorld).1 = .ok ⟨0, 1⟩ :=
    eq_ok_of_toOption (by decide +kernel)
  rw [hstore] at hcounts
  cases hcounts
  exact ⟨disk, store, hdisk, hstore, hholds⟩

theorem fresh_deepPath :
    Fresh deepWorld.files (deepPath.child freshName) (deepWorld.files.put [freshName] .directory)
      [freshName] :=
  fresh_deepWorld ⟨eq_ok_of_toOption (by decide +kernel), rfl⟩
    (isName_of_all (by decide +kernel) (Utf8.settled_eq_self (by decide +kernel))
      (by decide +kernel))
    (by decide +kernel) (by decide +kernel) (by intro kind; cases kind <;> decide)

theorem short_deepPath : ∀ d ∈ packageDirectories, Short (deepPath.child freshName) d := by
  decide +kernel

theorem answer_generation_deepPath :
    ((generation Path.here (.disk (deepPath.child freshName))).result deepWorld).1 =
    .ok ⟨0, 0⟩ := by
  have ha := apart_deepWorld (deepPath.child freshName)
  rw [result_create_disk fresh_deepPath short_deepPath] at ha
  have hnone : (unitsFor Path.here .contentTypes deepWorld.files).toOption.isNone := by
    decide +kernel
  have hsome : (unitsFor Path.here .sections deepWorld.files).toOption.any (!·.isEmpty) := by
    decide +kernel
  have hlong : ¬ Short (deepPath.child freshName)
      (pathOf CatalogKind.sections.name descriptorName) := by
    decide +kernel
  obtain ⟨hanswer, _⟩ := generation_eq fresh_deepPath short_deepPath Path.here
  cases hc : unitsFor Path.here .contentTypes deepWorld.files with
  | ok units =>
    rw [hc] at hnone
    cases hnone
  | error e =>
    cases hs : unitsFor Path.here .sections deepWorld.files with
    | error e =>
      rw [hs] at hsome
      cases hsome
    | ok units =>
      rw [hs] at hsome
      have hn : units ≠ [] := by
        rintro rfl
        cases hsome
      have hf : fileAt CatalogKind.sections.name descriptorName
          (descriptorFile CatalogKind.sections.name) ∈
          files CatalogKind.sections.name units := by
        rw [files_eq _ hn]
        exact List.mem_append_right _
          (List.mem_cons_of_mem _ (List.mem_cons_of_mem _ List.mem_cons_self))
      rw [outcome_fresh_of_error fresh_deepPath short_deepPath ha hc,
        outcome_fresh_of_not_short fresh_deepPath short_deepPath ha hs hasBytes_deepWorld hf
          hlong] at hanswer
      exact hanswer

/-- Below a root with a long path a file of a package may be out of reach, though its name is
short. -/
theorem disk_falls_short_below_deep_path : ∃ disk store,
    Fresh deepWorld.files (deepPath.child freshName) (deepWorld.files.put [freshName] .directory)
      [freshName] ∧
      Apart Path.here deepWorld.files
        ((create Path.here (.disk (deepPath.child freshName))).result deepWorld).2.files ∧
      SchemasHaveBytes Path.here deepWorld.files ∧ NamesFit Path.here deepWorld.files ∧
      (generation Path.here (.disk (deepPath.child freshName))).result deepWorld =
        (.ok ⟨0, 0⟩, disk) ∧
      (generation Path.here .memory).result deepWorld = (.ok ⟨0, 1⟩, store) := by
  have hstore : ((generation Path.here .memory).result deepWorld).1 = .ok ⟨0, 1⟩ :=
    eq_ok_of_toOption (by decide +kernel)
  exact ⟨_, _, fresh_deepPath, apart_deepWorld _, hasBytes_deepWorld, namesFit_deepWorld,
    Prod.fst_eq_iff.mp answer_generation_deepPath, Prod.fst_eq_iff.mp hstore⟩

end Generator
end CatalogTypes
