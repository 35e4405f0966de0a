import CatalogTypes.Proofs.Generation.Disk

/-! # Histories of generation

Packages are generated again and again in one directory, from catalogs that others replace. The
index of a package changes only in a run that makes types of its catalog, and then it becomes the
index of this run. So after any history it is that of the latest such run.
-/
namespace CatalogTypes
open FileTree Package Identifier

/-- A run of a catalog: its answer, and the units that the catalog had. -/
structure PackageRun where
  kind : CatalogKind
  answer : Except Failure Nat
  units : List TypeUnit

namespace PackageRun

def makes (kind : CatalogKind) (r : PackageRun) : Bool :=
  r.kind = kind && match r.answer with
    | .ok count => decide (0 < count)
    | .error _ => false

/-- The latest run that made types of a catalog. The runs stand newest first. -/
def latest (kind : CatalogKind) (runs : List PackageRun) : Option PackageRun :=
  runs.find? (makes kind)

variable {kind other : CatalogKind} {units : List TypeUnit} {runs : List PackageRun}

theorem latest_cons_zero (kind other : CatalogKind) (units : List TypeUnit)
    (runs : List PackageRun) :
    latest other (⟨kind, .ok 0, units⟩ :: runs) = latest other runs := by
  simp [latest, makes]

theorem latest_cons_self {count : Nat} (h : 0 < count) :
    latest kind (⟨kind, .ok count, units⟩ :: runs) = some ⟨kind, .ok count, units⟩ := by
  simp [latest, makes, h]

theorem latest_cons_of_ne (h : kind ≠ other) (answer : Except Failure Nat) :
    latest other (⟨kind, answer, units⟩ :: runs) = latest other runs := by
  simp [latest, makes, h]

end PackageRun

open PackageRun

def IsCatalogPlace (place : Location) : Prop :=
  ∃ (dir : Location) (kind : CatalogKind), place = dir ++ [kind.fileName]

namespace Generator

def found (g : Generator) (kind : CatalogKind) (tree : FileTree) : List TypeUnit :=
  (unitsIn tree kind (g.catalogPath kind)).toOption.getD []

/-- A catalog fails, has no units, or has a package of which all files can be written. -/
def Undisturbed (g : Generator) (kind : CatalogKind) (w : World) : Prop :=
  ∀ units, unitsIn w.files kind (g.catalogPath kind) = .ok units →
    ((writeAll g.output (files kind.name units)).result w).1 = .ok ()

/-- The runs of the generators of a directory, newest first, and the world after them. Catalogs may
be replaced meanwhile, but nothing keeps the file of a package from being written. -/
inductive History (root : Path) (start : World) : List PackageRun → World → Prop where
  | start : History root start [] start
  | catalogs {runs : List PackageRun} {w next : World} (h : History root start runs w)
    (hs : SameBut IsCatalogPlace w.files next.files) : History root start runs next
  | creation {runs : List PackageRun} {w : World} (h : History root start runs w) (source : Path) :
    History root start runs ((create source (.disk root)).result w).2
  | one {runs : List PackageRun} {w : World} (h : History root start runs w) {g : Generator}
    (ho : g.output = .disk root) {kind : CatalogKind} (hu : g.Undisturbed kind w) :
    History root start (⟨kind, ((g.generate kind).result w).1, g.found kind w.files⟩ :: runs)
      ((g.generate kind).result w).2
  | all {runs : List PackageRun} {w middle : World} (h : History root start runs w) {g : Generator}
    (ho : g.output = .disk root) (hm : middle = ((g.generate .contentTypes).result w).2)
    (hc : g.Undisturbed .contentTypes w) (hs : g.Undisturbed .sections middle) :
    History root start
      (⟨.sections, (g.generateAll.result w).1.map Counts.sections,
        g.found .sections middle.files⟩ ::
        ⟨.contentTypes, (g.generateAll.result w).1.map Counts.contentTypes,
          g.found .contentTypes w.files⟩ :: runs)
      (g.generateAll.result w).2

/-- The packages of a directory are ready, and the index of each is that of its latest run. -/
structure Tracks (root : Path) (top : Location) (runs : List PackageRun) (tree : FileTree) :
    Prop where
  ready : Ready tree root top
  index (kind : CatalogKind) : tree.get? (top ++ [kind.name] ++ [indexName]) =
    (latest kind runs).map fun r =>
      .file (bytesOf (indexFile kind.name (r.units.map TypeUnit.exportLine)))
  wellFormed {kind : CatalogKind} {r : PackageRun} (h : latest kind runs = some r) :
    ∀ u ∈ r.units, WellFormed u.identifier

variable {root : Path} {top : Location} {runs : List PackageRun} {tree : FileTree}

theorem Tracks.of_sameBut {changed : Location → Prop} {after : FileTree}
    (h : Tracks root top runs tree) (hs : SameBut changed tree after)
    (hc : ∀ kind : CatalogKind, ¬ changed (top ++ [kind.name] ++ [indexName])) :
    Tracks root top runs after :=
  ⟨h.ready.of_sameBut hs, fun kind => (hs.get? (hc kind)).trans (h.index kind), h.wellFormed⟩

theorem Tracks.zero (h : Tracks root top runs tree) (kind : CatalogKind) (units : List TypeUnit) :
    Tracks root top (⟨kind, .ok 0, units⟩ :: runs) tree where
  ready := h.ready
  index other := by
    rw [latest_cons_zero]
    exact h.index other
  wellFormed := by
    intro other r hr
    rw [latest_cons_zero] at hr
    exact h.wellFormed hr

theorem get?_index (h : Ready tree root top) {kind : CatalogKind} {units : List TypeUnit}
    (hn : units ≠ []) (hi : ∀ u ∈ units, WellFormed u.identifier)
    (hw : (writeFiles root (files kind.name units) tree).1 = .ok ()) :
    (writeFiles root (files kind.name units) tree).2.get? (top ++ [kind.name] ++ [indexName]) =
      some (.file (bytesOf (indexFile kind.name (units.map TypeUnit.exportLine)))) := by
  have hm := mirrors_files h kind hi hw indexName
  rw [lookup_stored_index kind.name [] hn] at hm
  exact hm

theorem found_of_ok {g : Generator} {kind : CatalogKind} {units : List TypeUnit}
    (h : unitsIn tree kind (g.catalogPath kind) = .ok units) : g.found kind tree = units := by
  rw [found, h]
  rfl

theorem found_of_error {g : Generator} {kind : CatalogKind} {e : Failure}
    (h : unitsIn tree kind (g.catalogPath kind) = .error e) : g.found kind tree = [] := by
  rw [found, h]
  rfl

section Run
variable {g : Generator} {kind : CatalogKind}
  (hu : ∀ units, unitsIn tree kind (g.catalogPath kind) = .ok units →
  (writeFiles root (files kind.name units) tree).1 = .ok ())
include hu

/-- A run that nothing disturbs counts the units of its catalog. -/
theorem outcome_count : (g.outcome root kind tree).1 = .ok (g.found kind tree).length := by
  cases hunits : unitsIn tree kind (g.catalogPath kind) with
  | error e =>
    rw [outcome_of_error hunits, found_of_error hunits]
    rfl
  | ok units =>
    rw [outcome_of_ok hunits, found_of_ok hunits, hu units hunits]
    rfl

theorem Tracks.run (h : Tracks root top runs tree) :
    Tracks root top (⟨kind, .ok (g.found kind tree).length, g.found kind tree⟩ :: runs)
      (g.outcome root kind tree).2 := by
  cases hunits : unitsIn tree kind (g.catalogPath kind) with
  | error e =>
    rw [outcome_of_error hunits, found_of_error hunits]
    exact h.zero kind []
  | ok units =>
    have hs : SameBut (IsOutput top kind) tree (g.outcome root kind tree).2 :=
      sameBut_outcome h.ready
    rw [outcome_of_ok hunits] at hs ⊢
    rw [found_of_ok hunits]
    cases units with
    | nil => exact h.zero kind []
    | cons u units =>
      have hi := wellFormed_of_unitsIn hunits
      have hpos : 0 < (u :: units).length := Nat.succ_pos _
      refine ⟨h.ready.of_sameBut hs, ?_, ?_⟩
      · intro other
        by_cases hk : kind = other
        · rw [← hk, latest_cons_self hpos]
          exact get?_index h.ready (List.cons_ne_nil u units) hi (hu _ hunits)
        · have hout : ¬ IsOutput top kind (top ++ [other.name] ++ [indexName]) :=
            not_isOutput_below (Ne.symm hk) (List.prefix_append _ _)
          rw [latest_cons_of_ne hk, hs.get? hout]
          exact h.index other
      · intro other r hr
        by_cases hk : kind = other
        · rw [← hk, latest_cons_self hpos] at hr
          cases hr
          exact hi
        · rw [latest_cons_of_ne hk] at hr
          exact h.wellFormed hr

end Run

theorem Undisturbed.writeFiles_eq {g : Generator} {kind : CatalogKind} {w : World}
    (h : g.Undisturbed kind w) (ho : g.output = .disk root) :
    ∀ units, unitsIn w.files kind (g.catalogPath kind) = .ok units →
      (writeFiles root (files kind.name units) w.files).1 = .ok () := by
  intro units hunits
  obtain ⟨log, hw⟩ := result_writeAll_disk root (files kind.name units) w
  have hok := h units hunits
  rw [ho, hw] at hok
  exact hok

theorem undisturbed_of_found {g : Generator} {kind : CatalogKind} {w : World}
    (h : ((writeAll g.output (files kind.name (g.found kind w.files))).result w).1.isOk) :
    g.Undisturbed kind w := by
  intro units hunits
  rw [found_of_ok hunits] at h
  cases hw : ((writeAll g.output (files kind.name units)).result w).1 with
  | ok done => rfl
  | error e =>
    rw [hw] at h
    cases h

theorem answer_generate {g : Generator} {kind : CatalogKind} {w : World} (h : g.Undisturbed kind w)
    (ho : g.output = .disk root) (hr : Ready w.files root top) :
    ((g.generate kind).result w).1 = .ok (g.found kind w.files).length := by
  obtain ⟨log, hg⟩ := result_generate ho hr kind
  rw [hg]
  exact outcome_count (h.writeFiles_eq ho)

theorem result_create_of_ready {w : World} (h : Ready w.files root top) (source : Path) :
    (create source (.disk root)).result w = (.ok ⟨source, .disk root⟩, w) := by
  rw [create, Run.result_bind, result_prepare_disk h]
  simp only
  rw [Run.result_bind, result_prepare_disk h]
  rfl

theorem not_isCatalogPlace_index (top : Location) (kind : CatalogKind) :
    ¬ IsCatalogPlace (top ++ [kind.name] ++ [indexName]) := by
  rintro ⟨dir, other, he⟩
  have hl := congrArg List.getLast? he
  rw [List.getLast?_concat, List.getLast?_concat] at hl
  revert hl
  cases other <;> decide

theorem History.tracks {start w : World} (h : History root start runs w)
    (hs : Tracks root top [] start.files) :
    Tracks root top runs w.files := by
  induction h with
  | start => exact hs
  | catalogs _ hsame ih => exact ih.of_sameBut hsame (not_isCatalogPlace_index top)
  | creation _ source ih =>
    rw [result_create_of_ready ih.ready]
    exact ih
  | @one runs w _ g ho kind hu ih =>
    obtain ⟨log, hg⟩ := result_generate ho ih.ready kind
    rw [hg]
    simp only [outcome_count (hu.writeFiles_eq ho)]
    exact ih.run (hu.writeFiles_eq ho)
  | @all runs w middle _ g ho hm hc hsec ih =>
    have ht := ih.run (hc.writeFiles_eq ho)
    have hmiddle : middle.files = (g.outcome root .contentTypes w.files).2 := by
      obtain ⟨log, hg⟩ := result_generate ho ih.ready .contentTypes
      rw [hm, hg]
    rw [← hmiddle] at ht
    have ht' := ht.run (hsec.writeFiles_eq ho)
    obtain ⟨hanswer, hfiles⟩ := generateAll_eq ho ih.ready
    rw [← hmiddle, outcome_count (hc.writeFiles_eq ho),
      outcome_count (hsec.writeFiles_eq ho)] at hanswer
    have hcounts : (g.generateAll.result w).1 =
        .ok ⟨(g.found .contentTypes w.files).length, (g.found .sections middle.files).length⟩ :=
      hanswer
    rw [hfiles _ hcounts, hcounts, ← hmiddle]
    exact ht'

section Creation
variable {before w : World} {base : Location} {g : Generator} {source : Path}
variable (hr : before.files.LeadsTo root base)
  (hc : (create source (.disk root)).result before = (.ok g, w))
include hr hc

theorem get?_of_create {place : Location} (hs : place ≠ base ++ [scope])
    (hk : ∀ kind : CatalogKind, place ≠ base ++ [scope] ++ [kind.name]) :
    w.files.get? place = before.files.get? place := by
  obtain ⟨_, middle, hcontent, h⟩ := Run.result_bind_eq_ok hc
  obtain ⟨_, last, hsections, h⟩ := Run.result_bind_eq_ok h
  cases h
  have hmiddle := (leadsTo_of_prepare hcontent).1.leadsTo hr
  exact (get?_of_prepare hmiddle hsections hs (hk .sections)).trans
    (get?_of_prepare hr hcontent hs (hk .contentTypes))

theorem tracks_of_create
    (hn : ∀ kind : CatalogKind, before.files.get? (base ++ [scope] ++ [kind.name] ++ [indexName]) =
      none) :
    Tracks root (base ++ [scope]) [] w.files := by
  obtain ⟨_, top, hready⟩ := ready_of_create hc
  obtain ⟨_, middle, hcontent, h⟩ := Run.result_bind_eq_ok hc
  obtain ⟨_, last, hsections, h⟩ := Run.result_bind_eq_ok h
  cases h
  have hroot :=
    (leadsTo_of_prepare hsections).1.leadsTo ((leadsTo_of_prepare hcontent).1.leadsTo hr)
  have hscope := hready.scope.1
  rw [place_scope] at hscope
  have htop : top = base ++ [scope] := eq_of_resolve_child hroot rfl (by decide) hscope
  refine ⟨htop ▸ hready, ?_, fun hlatest => nomatch hlatest⟩
  intro kind
  rw [get?_of_create hr hc]
  · exact hn kind
  · intro he
    have hl := congrArg List.length he
    simp at hl
  · intro other he
    have hl := congrArg List.length he
    simp at hl

end Creation
end Generator
end CatalogTypes
