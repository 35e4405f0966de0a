import Mathlib.Data.List.Induction
import Mathlib.Data.List.TakeWhile
import CatalogTypes.Package.Emission
import CatalogTypes.Proofs.Files.Memory
import CatalogTypes.Proofs.Package.Names

/-! # Packages in memory

A package that is written to a store has its directory there first, so only a read-only beginning
can refuse one of its files. Of several files under one path the last remains. The files of units
come before those that describe the package, and no two of them have one name, so all that can be
lost is the file of a unit that is named like the index.
-/
namespace CatalogTypes.Package
open Text Identifier

/-- What a store holds once files were written to it. -/
def stored (files : List OutputFile) (held : List (Text × Text)) : List (Text × Text) :=
  files.foldl (fun held f => Association.put f.path f.content held) held

theorem stored_cons (f : OutputFile) (files : List OutputFile) (held : List (Text × Text)) :
    stored (f :: files) held = stored files (Association.put f.path f.content held) := rfl

theorem lookup_stored_of_not_mem {files : List OutputFile} {held : List (Text × Text)} {path : Text}
    (h : ∀ f ∈ files, path ≠ f.path) : (stored files held).lookup path = held.lookup path := by
  induction files generalizing held with
  | nil => rfl
  | cons f files ih =>
    have hf : path ≠ f.path := h f List.mem_cons_self
    have hr : ∀ g ∈ files, path ≠ g.path := by
      intro g hg
      exact h g (List.mem_cons_of_mem _ hg)
    rw [stored_cons, ih hr, Association.lookup_put_of_ne hf]

theorem lookup_stored {files : List OutputFile} (held : List (Text × Text))
    (hn : (files.map OutputFile.path).Nodup) {f : OutputFile} (hf : f ∈ files) :
    (stored files held).lookup f.path = some f.content := by
  induction files generalizing held with
  | nil => cases hf
  | cons g files ih =>
    rw [List.map_cons, List.nodup_cons] at hn
    rw [stored_cons]
    rcases List.mem_cons.mp hf with rfl | hf
    · have hl : ∀ g ∈ files, f.path ≠ g.path := fun g hg he => hn.1 (he ▸ List.mem_map_of_mem hg)
      rw [lookup_stored_of_not_mem hl, Association.lookup_put]
    · exact ih _ hn.2 hf

theorem of_lookup_stored {files : List OutputFile} {held : List (Text × Text)}
    {path content : Text} (h : (stored files held).lookup path = some content) :
    held.lookup path = some content ∨ ∃ f ∈ files, f.path = path ∧ f.content = content := by
  induction files generalizing held with
  | nil => exact .inl h
  | cons f files ih =>
    rcases ih h with hput | ⟨g, hg, hgp⟩
    · by_cases hp : path = f.path
      · rw [hp, Association.lookup_put] at hput
        exact .inr ⟨f, List.mem_cons_self, hp.symm, Option.some.inj hput⟩
      · rw [Association.lookup_put_of_ne hp] at hput
        exact .inl hput
    · exact .inr ⟨g, List.mem_cons_of_mem _ hg, hgp⟩

/-- Writing is blind: what a path holds afterwards depends on what it held, and on nothing else. -/
theorem lookup_stored_congr {held other : List (Text × Text)} {path : Text}
    (h : held.lookup path = other.lookup path) (files : List OutputFile) :
    (stored files held).lookup path = (stored files other).lookup path := by
  induction files generalizing held other with
  | nil => exact h
  | cons f files ih =>
    rw [stored_cons, stored_cons]
    apply ih
    by_cases hp : path = f.path
    · rw [hp, Association.lookup_put, Association.lookup_put]
    · rw [Association.lookup_put_of_ne hp, Association.lookup_put_of_ne hp, h]

theorem lookup_stored_comm {front back : List OutputFile}
    (h : ∀ f ∈ front, ∀ g ∈ back, f.path ≠ g.path) (held : List (Text × Text)) (path : Text) :
    (stored back (stored front held)).lookup path =
      (stored front (stored back held)).lookup path := by
  by_cases hp : ∃ f ∈ front, path = f.path
  · obtain ⟨f, hf, rfl⟩ := hp
    have hback (held : List (Text × Text)) :
        (stored back held).lookup f.path = held.lookup f.path :=
      lookup_stored_of_not_mem (h f hf)
    rw [hback, lookup_stored_congr (hback held)]
  · have hfront (held : List (Text × Text)) : (stored front held).lookup path = held.lookup path :=
      lookup_stored_of_not_mem fun f hf he => hp ⟨f, hf, he⟩
    rw [hfront, lookup_stored_congr (hfront held)]

theorem stored_append (front back : List OutputFile) (held : List (Text × Text)) :
    stored (front ++ back) held = stored back (stored front held) :=
  List.foldl_append

theorem isSome_lookup_put {held : List (Text × Text)} {path : Text} (h : (held.lookup path).isSome)
    (written content : Text) :
    ((Association.put written content held).lookup path).isSome := by
  by_cases hp : path = written
  · rw [hp, Association.lookup_put]
    rfl
  · rw [Association.lookup_put_of_ne hp]
    exact h

theorem isSome_lookup_stored {held : List (Text × Text)} {path : Text}
    (h : (held.lookup path).isSome) (output : List OutputFile) :
    ((stored output held).lookup path).isSome := by
  induction output generalizing held with
  | nil => exact h
  | cons f output ih => exact ih (isSome_lookup_put h f.path f.content)

theorem isSome_lookup_stored_of_mem {output : List OutputFile} {f : OutputFile} (hf : f ∈ output)
    (held : List (Text × Text)) : ((stored output held).lookup f.path).isSome := by
  induction output generalizing held with
  | nil => cases hf
  | cons g output ih =>
    rw [stored_cons]
    rcases List.mem_cons.mp hf with rfl | hf
    · apply isSome_lookup_stored
      rw [Association.lookup_put]
      rfl
    · exact ih hf _

/-- A file that comes last under its path makes what was there before of no account. -/
theorem put_stored_put {output : List OutputFile} {held : List (Text × Text)}
    (h : ∀ f ∈ output, (held.lookup f.path).isSome) (g : OutputFile) :
    Association.put g.path g.content (stored output (Association.put g.path g.content held)) =
      Association.put g.path g.content (stored output held) := by
  induction output generalizing held with
  | nil => exact Association.put_put _ _ _ _
  | cons f output ih =>
    rw [stored_cons, stored_cons]
    by_cases hp : f.path = g.path
    · rw [← hp, Association.put_put]
    · have hrest : ∀ e ∈ output, ((Association.put f.path f.content held).lookup e.path).isSome :=
        fun e he => isSome_lookup_put (h e (List.mem_cons_of_mem _ he)) _ _
      rw [Association.put_comm hp (h f List.mem_cons_self), ih hrest]

/-- Files that were all written are as they are when they are written again. -/
theorem stored_stored (output : List OutputFile) (held : List (Text × Text)) :
    stored output (stored output held) = stored output held := by
  induction output using List.reverseRecOn with
  | nil => rfl
  | append_singleton output g ih =>
    have hthere : ∀ f ∈ output, ((stored output held).lookup f.path).isSome :=
      fun f hf => isSome_lookup_stored_of_mem hf held
    have hlast (held : List (Text × Text)) :
        stored (output ++ [g]) held = Association.put g.path g.content (stored output held) :=
      stored_append output [g] held
    rw [hlast, hlast, put_stored_put hthere, ih]

def refuses (readOnly : List Text) (f : OutputFile) : Bool := readOnly.any (·.isPrefixOf f.path)

def accepted (readOnly : List Text) (files : List OutputFile) : List OutputFile :=
  files.takeWhile (!refuses readOnly ·)

theorem accepted_nil (files : List OutputFile) : accepted [] files = files :=
  List.takeWhile_eq_self_iff.mpr fun _ _ => rfl

def refusal? (readOnly : List Text) (files : List OutputFile) : Option Failure :=
  (files.find? (refuses readOnly)).map fun f => .memory (.readOnly f.path)

theorem result_writeAll_memory {files : List OutputFile} {w : World}
    (hd : ∀ f ∈ files, (Path.ofText f.path).parent.toText ∈ w.memory.directories) :
    (writeAll .memory files).result w =
      ((refusal? w.memory.readOnly files).elim (.ok ()) .error,
        { w with memory :=
          { w.memory with
            files := stored (accepted w.memory.readOnly files) w.memory.files } }) := by
  induction files generalizing w with
  | nil => rfl
  | cons f files ih =>
    rw [writeAll, Run.result_bind]
    cases hr : refuses w.memory.readOnly f with
    | true =>
      rw [Output.result_write_memory_error (Memory.write_eq_error hr f.content)]
      simp [refusal?, accepted, hr, stored]
    | false =>
      have hw : w.memory.write f.path f.content =
          .ok { w.memory with files := Association.put f.path f.content w.memory.files } :=
        Memory.write_eq_ok hr (hd f List.mem_cons_self)
      have hrest := ih (w := { w with memory :=
        { w.memory with files := Association.put f.path f.content w.memory.files } })
        fun g hg => hd g (List.mem_cons_of_mem _ hg)
      rw [Output.result_write_memory hw]
      refine hrest.trans ?_
      simp [refusal?, accepted, hr, stored]

theorem exists_name_of_mem_files {package : Text} {units : List TypeUnit} {f : OutputFile}
    (h : f ∈ files package units) : ∃ name ∈ fileNames units, f.path = pathOf package name := by
  unfold files at h
  split at h
  · cases h
  · rcases List.mem_append.mp h with h | h
    · obtain ⟨u, hu, rfl⟩ := List.mem_map.mp h
      exact ⟨u.fileName, List.mem_append_left _ (List.mem_map_of_mem hu), rfl⟩
    · simp only [packageFiles, List.mem_cons, List.not_mem_nil, or_false] at h
      rcases h with rfl | rfl | rfl
      · exact ⟨indexName, List.mem_append_right _ (by simp [packageNames]), rfl⟩
      · exact ⟨typesName, List.mem_append_right _ (by simp [packageNames]), rfl⟩
      · exact ⟨descriptorName, List.mem_append_right _ (by simp [packageNames]), rfl⟩

def prepared (package : Text) (m : Memory) : Memory :=
  (m.ensureDirectory scope).ensureDirectory (fullName package)

theorem parent_mem_directories {package : Text} {units : List TypeUnit}
    (hi : ∀ u ∈ units, WellFormed u.identifier) {f : OutputFile} (hf : f ∈ files package units)
    (m : Memory) :
    (Path.ofText f.path).parent.toText ∈ (prepared package m).directories := by
  obtain ⟨name, hn, hp⟩ := exists_name_of_mem_files hf
  rw [hp, ofText_pathOf package (isFileName_of_mem_fileNames hi hn), Path.parent_child]
  exact Memory.mem_directories_ensureDirectory.mpr (.inl List.mem_cons_self)

theorem result_emit_refusing (package : Text) {units : List TypeUnit}
    (hi : ∀ u ∈ units, WellFormed u.identifier) (w : World) :
    ∃ log, (emit .memory package units).result w =
      ((refusal? w.memory.readOnly (files package units)).elim (.ok units.length) .error,
        { w with
          memory := { prepared package w.memory with
            files := stored (accepted w.memory.readOnly (files package units)) w.memory.files }
          log := log }) := by
  have hw := result_writeAll_memory (w := { w with memory := prepared package w.memory })
    fun f hf => parent_mem_directories hi hf w.memory
  have hp : (prepare .memory package).result w =
      (.ok (), { w with memory := prepared package w.memory }) := rfl
  have hr : (prepared package w.memory).readOnly = w.memory.readOnly := rfl
  rw [emit, Run.result_bind, hp]
  simp only
  rw [Run.result_bind, hw, hr]
  cases refusal? w.memory.readOnly (files package units) with
  | some e => exact ⟨w.log, rfl⟩
  | none =>
    cases units with
    | nil => exact ⟨w.log, rfl⟩
    | cons u units => exact ⟨_, rfl⟩

/-- A store that refuses none of the files of a package takes all of them. -/
theorem result_emit_memory {package : Text} {units : List TypeUnit} {w : World}
    (hi : ∀ u ∈ units, WellFormed u.identifier)
    (hr : ∀ f ∈ files package units, w.memory.readOnly.any (·.isPrefixOf f.path) = false) :
    ∃ log, (emit .memory package units).result w =
      (.ok units.length, { w with
        memory :=
          { prepared package w.memory with files := stored (files package units) w.memory.files }
        log := log }) := by
  have hnone : (files package units).find? (refuses w.memory.readOnly) = none := by
    rw [List.find?_eq_none]
    intro f hf
    rw [refuses, hr f hf]
    exact Bool.false_ne_true
  have hall : accepted w.memory.readOnly (files package units) = files package units := by
    rw [accepted, List.takeWhile_eq_self_iff]
    intro f hf
    rw [refuses, hr f hf]
    rfl
  obtain ⟨log, he⟩ := result_emit_refusing package hi w
  rw [refusal?, hnone, hall] at he
  exact ⟨log, he⟩

theorem nodup_map_pathOf {names : List Text} (h : names.Nodup) (package : Text) :
    (names.map (pathOf package)).Nodup :=
  List.pairwise_map.mpr (h.imp fun hne he => hne (pathOf_inj.mp he))

theorem paths_packageFiles (package : Text) (units : List TypeUnit) :
    (packageFiles package units).map OutputFile.path = packageNames.map (pathOf package) := rfl

theorem paths_unitFiles (package : Text) (units : List TypeUnit) :
    (unitFiles package units).map OutputFile.path =
      (units.map TypeUnit.fileName).map (pathOf package) := by
  rw [unitFiles, List.map_map, List.map_map]
  rfl

theorem files_eq (package : Text) {units : List TypeUnit} (hn : units ≠ []) :
    files package units = unitFiles package units ++ packageFiles package units := by
  simp [files, hn]

section Kept
variable (package : Text) {units : List TypeUnit} (held : List (Text × Text))

/-- The descriptions of a package are written last, each under a name of its own. -/
theorem lookup_stored_packageFiles (hn : units ≠ []) {f : OutputFile}
    (hf : f ∈ packageFiles package units) :
    (stored (files package units) held).lookup f.path = some f.content := by
  have hd : ((packageFiles package units).map OutputFile.path).Nodup := by
    rw [paths_packageFiles]
    exact nodup_map_pathOf (by decide) package
  rw [files_eq package hn, stored_append]
  exact lookup_stored _ hd hf

theorem lookup_stored_index (hn : units ≠ []) :
    (stored (files package units) held).lookup (pathOf package indexName) =
      some (indexFile package (units.map TypeUnit.exportLine)) :=
  lookup_stored_packageFiles package held hn List.mem_cons_self

/-- The file of a unit is held unless a description of the package has its name. -/
theorem lookup_stored_unit (hd : (units.map TypeUnit.identifier).Nodup) {u : TypeUnit}
    (hu : u ∈ units) (hp : u.fileName ∉ packageNames) :
    (stored (files package units) held).lookup (pathOf package u.fileName) = some (typeFile u) := by
  have hn : units ≠ [] := List.ne_nil_of_mem hu
  have hl : ∀ f ∈ packageFiles package units, pathOf package u.fileName ≠ f.path := by
    intro f hf he
    have hm : pathOf package u.fileName ∈ packageNames.map (pathOf package) := by
      rw [← paths_packageFiles package units, he]
      exact List.mem_map_of_mem hf
    obtain ⟨name, hm, hname⟩ := List.mem_map.mp hm
    exact hp (pathOf_inj.mp hname ▸ hm)
  have hf : (units.map TypeUnit.fileName).Nodup :=
    List.pairwise_map.mpr ((List.pairwise_map.mp hd).imp fun hne he => hne (fileName_inj.mp he))
  have hun : ((unitFiles package units).map OutputFile.path).Nodup := by
    rw [paths_unitFiles]
    exact nodup_map_pathOf hf package
  rw [files_eq package hn, stored_append, lookup_stored_of_not_mem hl]
  exact lookup_stored held hun (List.mem_map_of_mem hu)

theorem typeFile_ne_indexFile (u : TypeUnit) (exports : List Text) :
    typeFile u ≠ indexFile package exports := by
  intro h
  have hh : (typeFile u).head? = (indexFile package exports).head? := congrArg List.head? h
  exact absurd (Option.some.inj hh) (by decide)

end Kept

/-- The package of a catalog that has units is written to any store that refuses none of its files,
and the answer is the number of the units. The descriptions are held as they were written, and so
is the file of each unit but of one that is named like the index. -/
theorem emit_memory_exact {kind : CatalogKind} {catalog : List Json} {units : List TypeUnit}
    {package : Text} {w : World} (hw : (Walk.ofCatalog kind catalog).result = .ok units)
    (hn : units ≠ [])
    (hr : ∀ f ∈ files package units, w.memory.readOnly.any (·.isPrefixOf f.path) = false) :
    ∃ next, (emit .memory package units).result w = (.ok units.length, next) ∧
      (∀ u ∈ units, next.memory.read (pathOf package u.fileName) = .ok (typeFile u) ↔
        u.identifier ≠ "index") ∧
      next.memory.read (pathOf package indexName) =
        .ok (indexFile package (units.map TypeUnit.exportLine)) ∧
      next.memory.read (pathOf package typesName) =
        .ok (indexFile package (units.map TypeUnit.exportLine)) ∧
      next.memory.read (pathOf package descriptorName) = .ok (descriptorFile package) := by
  have hi : ∀ u ∈ units, WellFormed u.identifier := Walk.wellFormed_identifier hw
  obtain ⟨log, he⟩ := result_emit_memory hi hr
  let held := stored (files package units) w.memory.files
  let index := indexFile package (units.map TypeUnit.exportLine)
  have hp : ∀ f ∈ packageFiles package units, held.lookup f.path = some f.content :=
    fun f hf => lookup_stored_packageFiles package w.memory.files hn hf
  have hindex : held.lookup (pathOf package indexName) = some index :=
    lookup_stored_index package _ hn
  have htypes : held.lookup (pathOf package typesName) = some index :=
    hp _ (List.mem_cons_of_mem _ List.mem_cons_self)
  have hdescriptor : held.lookup (pathOf package descriptorName) = some (descriptorFile package) :=
    hp _ (List.mem_cons_of_mem _ (List.mem_cons_of_mem _ List.mem_cons_self))
  refine ⟨_, he, ?_, Memory.read_eq_ok_iff.mpr hindex, Memory.read_eq_ok_iff.mpr htypes,
    Memory.read_eq_ok_iff.mpr hdescriptor⟩
  intro u hu
  have hx := fileName_eq_indexName_iff (hi u hu)
  rw [Memory.read_eq_ok_iff]
  constructor
  · intro hl hui
    rw [← hx.mpr hui, hl] at hindex
    exact typeFile_ne_indexFile package u _ (Option.some.inj hindex)
  · intro hui
    have hnames : u.fileName ∉ packageNames := by
      simp only [packageNames, List.mem_cons, List.not_mem_nil, or_false, not_or]
      exact ⟨fun h => hui (hx.mp h), fileName_ne_typesName (hi u hu),
        fileName_ne_descriptorName (hi u hu)⟩
    exact lookup_stored_unit package _ (Walk.nodup_identifiers hw) hu hnames

def stringSection (name : Text) : List Json :=
  [.object [("name", .string name), ("schema", .object [("type", .string "string")])]]

def stringUnit (name : Text) : TypeUnit := .ofSchema name (.string .empty [])

theorem result_stringSection {name : Text} (h : WellFormed name) :
    (Walk.ofCatalog .sections (stringSection name)).result = .ok [stringUnit name] := by
  obtain ⟨c, rest, hc, _⟩ := id h
  have ho : CatalogKind.sections.occurrences (stringSection name) =
      [⟨name, .object [("type", .string "string")]⟩] := by
    rw [hc]
    rfl
  have hs : Schema.ofJson (.object [("type", .string "string")]) = .ok (.string .empty []) := rfl
  have hf : Pool.empty.fresh name = name := rfl
  rw [Walk.ofCatalog, ho]
  simp [Walk.ofOccurrences, Pool.assign, h.ofName_eq, hs, hf, Except.map, stringUnit]

theorem emit_memory_exact_hero : ∃ next,
    (emit .memory CatalogKind.sections.name [stringUnit "Hero"]).result World.empty =
      (.ok 1, next) ∧
      next.memory.read (pathOf CatalogKind.sections.name "Hero.ts") =
        .ok (typeFile (stringUnit "Hero")) := by
  have hh : WellFormed (text "Hero") := ⟨'H', "ero", rfl, by decide, List.all_eq_true.mp (by rfl)⟩
  obtain ⟨next, he, hu, _⟩ :=
    emit_memory_exact (w := World.empty) (result_stringSection hh) (List.cons_ne_nil _ _)
    fun _ _ => rfl
  exact ⟨next, he, (hu _ List.mem_cons_self).mpr (by decide)⟩

theorem emit_memory_loses_index : ∃ next,
    (Walk.ofCatalog .sections (stringSection "index")).result = .ok [stringUnit "index"] ∧
      (emit .memory CatalogKind.sections.name [stringUnit "index"]).result World.empty =
        (.ok 1, next) ∧
      next.memory.read (pathOf CatalogKind.sections.name "index.ts") ≠
        .ok (typeFile (stringUnit "index")) := by
  have hi : WellFormed (text "index") := ⟨'i', "ndex", rfl, by decide, List.all_eq_true.mp (by rfl)⟩
  have hw := result_stringSection hi
  obtain ⟨log, he⟩ :=
    result_emit_memory (w := World.empty) (Walk.wellFormed_identifier hw) fun _ _ => rfl
  refine ⟨_, hw, he, ?_⟩
  intro h
  have hl :=
    lookup_stored_index CatalogKind.sections.name [] (List.cons_ne_nil (stringUnit "index") [])
  have ht := Memory.read_eq_ok_iff.mp h
  exact typeFile_ne_indexFile _ _ _ (Option.some.inj (ht.symm.trans hl))

end CatalogTypes.Package
