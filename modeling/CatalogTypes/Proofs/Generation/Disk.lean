import CatalogTypes.Generation
import CatalogTypes.Proofs.Catalog.File
import CatalogTypes.Proofs.Package.Written

/-! # Generation on disk

A generator that was created finds the directories of both packages. Generating one package changes
files of this package only, and no catalog has the name of such a file, so what is generated from
the other catalog is the same before and after. The one failure that is not taken as zero types is
that of a text that has no bytes.
-/
namespace CatalogTypes
open FileTree Package Identifier

namespace Generator
variable {g : Generator} {root : Path} {top : Location} {kind : CatalogKind} {w : World}

def IsOutput (top : Location) (kind : CatalogKind) (place : Location) : Prop :=
  ∃ name, ¬ IsCatalogName name ∧ place = top ++ [kind.name] ++ [name]

/-- The number of types that were written. A file that stood in the way leaves none. -/
def counted (count : Nat) : Except Failure Unit → Except Failure Nat
  | .ok () => .ok count
  | .error e => if e.isFileFault then .ok 0 else .error e

/-- What becomes of a tree when a package of certain units is written, if there are any. -/
def written (root : Path) (kind : CatalogKind) (tree : FileTree) :
    Except Failure (List TypeUnit) → Except Failure Nat × FileTree
  | .error _ => (.ok 0, tree)
  | .ok units =>
    (counted units.length (writeFiles root (files kind.name units) tree).1,
      (writeFiles root (files kind.name units) tree).2)

/-- What generating a package answers, and the tree that it leaves. -/
def outcome (g : Generator) (root : Path) (kind : CatalogKind) (tree : FileTree) :
    Except Failure Nat × FileTree :=
  written root kind tree (unitsIn tree kind (g.catalogPath kind))

theorem outcome_of_ok {tree : FileTree} {units : List TypeUnit}
    (h : unitsIn tree kind (g.catalogPath kind) = .ok units) :
    g.outcome root kind tree =
      (counted units.length (writeFiles root (files kind.name units) tree).1,
        (writeFiles root (files kind.name units) tree).2) := by
  rw [outcome, h, written]

theorem outcome_of_error {tree : FileTree} {e : Failure}
    (h : unitsIn tree kind (g.catalogPath kind) = .error e) :
    g.outcome root kind tree = (.ok 0, tree) := by
  rw [outcome, h, written]

theorem result_generate (ho : g.output = .disk root) (h : Ready w.files root top)
    (kind : CatalogKind) :
    ∃ log, (g.generate kind).result w =
      ((g.outcome root kind w.files).1,
        { w with files := (g.outcome root kind w.files).2, log := log }) := by
  obtain ⟨log, hu⟩ := result_unitsOfFile kind (g.catalogPath kind) w
  rw [generate, Run.result_bind, Run.result_attempt, hu]
  cases hw : unitsIn w.files kind (g.catalogPath kind) with
  | error e =>
    have he := isCatalogFault_of_unitsIn hw
    simp only [outcome_of_error hw, he]
    exact ⟨_, rfl⟩
  | ok units =>
    obtain ⟨log', he⟩ := result_emit_disk (w := { w with log := log }) h kind units
    simp only [outcome_of_ok hw, write, ho, Run.result_bind, Run.result_attempt, he]
    cases (writeFiles root (files kind.name units) w.files).1 with
    | ok done => exact ⟨log', rfl⟩
    | error e =>
      simp only [Except.map, counted]
      cases hf : e.isFileFault with
      | true => exact ⟨_, rfl⟩
      | false => exact ⟨log', rfl⟩

section Outcome
variable {tree : FileTree} (h : Ready tree root top)
include h

theorem sameBut_outcome : SameBut (IsOutput top kind) tree (g.outcome root kind tree).2 := by
  cases hu : unitsIn tree kind (g.catalogPath kind) with
  | error e =>
    rw [outcome_of_error hu]
    exact .refl _ tree
  | ok units =>
    have hl := liesIn_files root kind (wellFormed_of_unitsIn hu)
    rw [outcome_of_ok hu]
    exact sameBut_writeFiles (h.package kind) hl

/-- Changes of other files than catalogs make no difference, and stay as they are. -/
theorem outcome_of_sameBut {changed : Location → Prop} {other : FileTree}
    (hs : SameBut changed tree other) (hc : ∀ dir, ¬ changed (dir ++ [kind.fileName])) :
    (g.outcome root kind tree).1 = (g.outcome root kind other).1 ∧
      SameBut changed (g.outcome root kind tree).2 (g.outcome root kind other).2 := by
  have hp : ∀ place, tree.resolve (g.catalogPath kind) = .ok place → ¬ changed place := by
    intro place hr
    obtain ⟨dir, rfl⟩ := exists_eq_append_of_resolve hr
    exact hc dir
  cases hu : unitsIn tree kind (g.catalogPath kind) with
  | error e =>
    cases hu' : unitsIn other kind (g.catalogPath kind) with
    | error e' =>
      rw [outcome_of_error hu, outcome_of_error hu']
      exact ⟨rfl, hs⟩
    | ok units =>
      rw [(unitsIn_eq_ok_iff hs hp).mp hu'] at hu
      cases hu
  | ok units =>
    have hl := liesIn_files root kind (wellFormed_of_unitsIn hu)
    obtain ⟨ha, hw⟩ := writeFiles_of_sameBut (h.package kind) hl hs
    rw [outcome_of_ok hu, outcome_of_ok ((unitsIn_eq_ok_iff hs hp).mpr hu), ha]
    exact ⟨rfl, hw⟩

theorem outcome_answer {units : List TypeUnit}
    (hu : unitsIn tree kind (g.catalogPath kind) = .ok units) :
    (g.outcome root kind tree).1 =
      counted units.length ((firstFailure? tree root (files kind.name units)).elim
        (.ok ()) .error) := by
  have hl := liesIn_files root kind (wellFormed_of_unitsIn hu)
  rw [outcome_of_ok hu, writeFiles_eq (h.package kind) hl]

end Outcome

/-- The first file of a package that cannot be written has a text without bytes. -/
def Aborts (g : Generator) (root : Path) (kind : CatalogKind) (tree : FileTree) : Prop :=
  ∃ units cause, unitsIn tree kind (g.catalogPath kind) = .ok units ∧
    firstFailure? tree root (files kind.name units) = some (.unencodable cause)

theorem outcome_error_iff {tree : FileTree} (h : Ready tree root top) :
    (∃ e, (g.outcome root kind tree).1 = .error e) ↔ g.Aborts root kind tree := by
  cases hu : unitsIn tree kind (g.catalogPath kind) with
  | error e =>
    rw [outcome_of_error hu]
    constructor
    · rintro ⟨e', he⟩
      cases he
    · rintro ⟨units, cause, hunits, _⟩
      rw [hu] at hunits
      cases hunits
  | ok units =>
    have hl := liesIn_files root kind (wellFormed_of_unitsIn hu)
    rw [outcome_answer h hu]
    constructor
    · rintro ⟨e, he⟩
      cases hf : firstFailure? tree root (files kind.name units) with
      | none =>
        rw [hf] at he
        cases he
      | some failure =>
        rcases firstFailure?_cases (h.package kind) hl hf with hfault | ⟨cause, rfl⟩
        · simp [hf, counted, hfault] at he
        · exact ⟨units, cause, hu, hf⟩
    · rintro ⟨units', cause, hunits, hf⟩
      rw [hu] at hunits
      cases hunits
      rw [hf]
      exact ⟨.unencodable cause, rfl⟩

theorem grows_of_create (source root : Path) (w : World) :
    Grows w.files ((create source (.disk root)).result w).2.files := by
  have hc := grows_of_prepare root CatalogKind.contentTypes.name w
  rw [create, Run.result_bind]
  rcases hfirst : (prepare (.disk root) CatalogKind.contentTypes.name).result
    w with ⟨answer, middle⟩
  rw [hfirst] at hc
  cases answer with
  | error e => exact hc
  | ok done =>
    have hs := grows_of_prepare root CatalogKind.sections.name middle
    simp only [Run.result_bind]
    rcases hsecond : (prepare (.disk root) CatalogKind.sections.name).result
      middle with ⟨answer, last⟩
    rw [hsecond] at hs
    cases answer with
    | error e => exact hc.trans hs
    | ok done => exact hc.trans hs

theorem ready_of_create {source : Path} {before : World}
    (h : (create source (.disk root)).result before = (.ok g, w)) :
    g.output = .disk root ∧ ∃ top, Ready w.files root top := by
  obtain ⟨_, middle, hc, h⟩ := Run.result_bind_eq_ok h
  obtain ⟨_, last, hs, h⟩ := Run.result_bind_eq_ok h
  cases h
  obtain ⟨_, top, ht, hct⟩ := leadsTo_of_prepare hc
  obtain ⟨hk, top', ht', hsec⟩ := leadsTo_of_prepare hs
  have htop : top' = top := Except.ok.inj (ht'.1.symm.trans (hk.leadsTo ht).1)
  rw [htop] at hsec
  refine ⟨rfl, top, hk.leadsTo ht, ?_⟩
  intro kind
  cases kind with
  | contentTypes => exact hk.leadsTo hct
  | sections => exact hsec

theorem generate_eq {answer : Except Failure Nat} {next : World}
    (hr : (g.generate kind).result w = (answer, next)) (ho : g.output = .disk root)
    (h : Ready w.files root top) :
    (g.outcome root kind w.files).1 = answer ∧ (g.outcome root kind w.files).2 = next.files := by
  obtain ⟨log, hg⟩ := result_generate ho h kind
  rw [hg] at hr
  cases hr
  exact ⟨rfl, rfl⟩

theorem generateOnly_eq (ho : g.output = .disk root) (h : Ready w.files root top)
    (kind : CatalogKind) :
    ((g.generateOnly kind).result w).1 = (g.outcome root kind w.files).1 ∧
      ((g.generateOnly kind).result w).2.files = (g.outcome root kind w.files).2 := by
  simp only [generateOnly, Run.result_bind, Run.result_info]
  split
  next count next hr =>
    obtain ⟨ha, hf⟩ := generate_eq hr ho h
    rw [ha, hf]
    split
    · exact ⟨rfl, rfl⟩
    · exact ⟨rfl, rfl⟩
  next e next hr =>
    obtain ⟨ha, hf⟩ := generate_eq hr ho h
    exact ⟨ha.symm, hf.symm⟩

theorem generateAll_eq (ho : g.output = .disk root) (h : Ready w.files root top) :
    ((g.generateAll.result w).1 = do
      let contentTypes ← (g.outcome root .contentTypes w.files).1
      let sections ← (g.outcome root .sections (g.outcome root .contentTypes w.files).2).1
      return ⟨contentTypes, sections⟩) ∧
    ∀ counts, (g.generateAll.result w).1 = .ok counts →
      (g.generateAll.result w).2.files =
        (g.outcome root .sections (g.outcome root .contentTypes w.files).2).2 := by
  simp only [generateAll, Run.result_bind, Run.result_info]
  split
  next contentTypes middle hr =>
    obtain ⟨ha, hf⟩ := generate_eq hr ho h
    have hmiddle : Ready middle.files root top := by
      rw [← hf]
      exact h.of_sameBut (sameBut_outcome h)
    rw [ha, hf]
    split
    next sections last hr' =>
      obtain ⟨ha', hf'⟩ := generate_eq hr' ho hmiddle
      rw [ha', hf']
      exact ⟨rfl, fun _ _ => rfl⟩
    next e last hr' =>
      obtain ⟨ha', _⟩ := generate_eq hr' ho hmiddle
      rw [ha']
      refine ⟨rfl, ?_⟩
      intro counts hc
      cases hc
  next e middle hr =>
    obtain ⟨ha, _⟩ := generate_eq hr ho h
    rw [ha]
    refine ⟨rfl, ?_⟩
    intro counts hc
    cases hc

theorem not_isOutput_catalog (top dir : Location) (kind other : CatalogKind) :
    ¬ IsOutput top kind (dir ++ [other.fileName]) := by
  rintro ⟨name, hn, he⟩
  have hl : some other.fileName = some name := by
    rw [← List.getLast?_concat (l := dir), he, List.getLast?_concat]
  exact hn ⟨other, (Option.some.inj hl).symm⟩

theorem not_isOutput_below {other : CatalogKind} (hne : kind ≠ other) {place : Location}
    (hp : top ++ [kind.name] <+: place) : ¬ IsOutput top other place := by
  rintro ⟨name, _, rfl⟩
  rw [List.append_assoc, List.prefix_append_right_inj, List.singleton_append,
    List.cons_prefix_cons] at hp
  revert hne hp
  cases kind <;> cases other <;> simp <;> decide

theorem outcome_ok_iff {tree : FileTree} (h : Ready tree root top) :
    (∃ count, (g.outcome root kind tree).1 = .ok count) ↔ ¬ g.Aborts root kind tree := by
  rw [← outcome_error_iff h]
  cases (g.outcome root kind tree).1 with
  | ok count => simp
  | error e => simp

/-- There is no catalog, it has a schema that is refused, or a file of its package cannot be
written. -/
def Fails (g : Generator) (root : Path) (kind : CatalogKind) (tree : FileTree) : Prop :=
  (∃ e, unitsIn tree kind (g.catalogPath kind) = .error e) ∨
    ∃ units e, unitsIn tree kind (g.catalogPath kind) = .ok units ∧
      firstFailure? tree root (files kind.name units) = some e

theorem eq_zero_of_fails {tree : FileTree} (h : Ready tree root top) (hf : g.Fails root kind tree)
    {count : Nat} (hc : (g.outcome root kind tree).1 = .ok count) : count = 0 := by
  rcases hf with ⟨e, hu⟩ | ⟨units, e, hu, hf⟩
  · rw [outcome_of_error hu] at hc
    cases hc
    rfl
  · rw [outcome_answer h hu, hf] at hc
    simp only [Option.elim, counted] at hc
    split at hc
    · cases hc
      rfl
    · cases hc

theorem eq_length_of_written {tree : FileTree} (h : Ready tree root top) {units : List TypeUnit}
    (hu : unitsIn tree kind (g.catalogPath kind) = .ok units)
    (hf : firstFailure? tree root (files kind.name units) = none) {count : Nat}
    (hc : (g.outcome root kind tree).1 = .ok count) : count = units.length := by
  rw [outcome_answer h hu, hf] at hc
  cases hc
  rfl

/-- What is generated from the second catalog does not depend on the first one. -/
theorem outcome_sections {tree : FileTree} (h : Ready tree root top) :
    (g.outcome root .sections tree).1 =
      (g.outcome root .sections (g.outcome root .contentTypes tree).2).1 ∧
      SameBut (IsOutput top .contentTypes) (g.outcome root .sections tree).2
        (g.outcome root .sections (g.outcome root .contentTypes tree).2).2 :=
  outcome_of_sameBut h (sameBut_outcome h) fun dir =>
    not_isOutput_catalog top dir .contentTypes .sections

end Generator

def Counts.of (c : Counts) : CatalogKind → Nat
  | .contentTypes => c.contentTypes
  | .sections => c.sections

namespace Generator

/-- Both packages are generated unless a file of one of them, the first that cannot be written, has
a text without bytes. If they are, then each as if it were the only one: with the same count, which
is zero after any failure, and the same files. -/
theorem generateAll_exact {g : Generator} {source root : Path} {before w : World}
    (hc : (create source (.disk root)).result before = (.ok g, w)) :
    ((∃ counts, (g.generateAll.result w).1 = .ok counts) ↔ ∀ kind, ¬ g.Aborts root kind w.files) ∧
    ∀ counts, (g.generateAll.result w).1 = .ok counts → ∀ kind,
      ((g.generateOnly kind).result w).1 = .ok (counts.of kind) ∧
      (g.Fails root kind w.files → counts.of kind = 0) ∧
      (∀ units, unitsIn w.files kind (g.catalogPath kind) = .ok units →
        firstFailure? w.files root (files kind.name units) = none → counts.of kind = units.length) ∧
      ∃ dir, w.files.LeadsTo (Output.place root (fullName kind.name)) dir ∧ ∀ place, dir <+: place →
        (g.generateAll.result w).2.files.get? place =
          ((g.generateOnly kind).result w).2.files.get? place := by
  obtain ⟨ho, top, h⟩ := ready_of_create hc
  obtain ⟨hanswer, hfiles⟩ := generateAll_eq ho h
  obtain ⟨hsections, hsame⟩ := outcome_sections (g := g) h
  have hfirst : Ready (g.outcome root .contentTypes w.files).2 root top :=
    h.of_sameBut (sameBut_outcome h)
  have hok (counts : Counts) : (g.generateAll.result w).1 = .ok counts ↔
      (g.outcome root .contentTypes w.files).1 = .ok counts.contentTypes ∧
        (g.outcome root .sections w.files).1 = .ok counts.sections := by
    rw [hanswer, ← hsections]
    constructor
    · intro hall
      obtain ⟨contentTypes, hct, hrest⟩ := bind_eq_ok.mp hall
      obtain ⟨sections, hsec, hr⟩ := bind_eq_ok.mp hrest
      cases hr
      exact ⟨hct, hsec⟩
    · rintro ⟨hct, hsec⟩
      rw [hct, hsec]
      rfl
  have hcount {counts : Counts} (hcounts : (g.generateAll.result w).1 = .ok counts)
      (kind : CatalogKind) :
      (g.outcome root kind w.files).1 = .ok (counts.of kind) := by
    obtain ⟨hct, hsec⟩ := (hok counts).mp hcounts
    cases kind with
    | contentTypes => exact hct
    | sections => exact hsec
  constructor
  · constructor
    · rintro ⟨counts, hcounts⟩ kind
      exact (outcome_ok_iff h).mp ⟨counts.of kind, hcount hcounts kind⟩
    · intro hn
      obtain ⟨contentTypes, hct⟩ := (outcome_ok_iff h).mpr (hn .contentTypes)
      obtain ⟨sections, hsec⟩ := (outcome_ok_iff h).mpr (hn .sections)
      exact ⟨⟨contentTypes, sections⟩, (hok _).mpr ⟨hct, hsec⟩⟩
  · intro counts hcounts kind
    have hkind := hcount hcounts kind
    obtain ⟨hon, honf⟩ := generateOnly_eq ho h kind
    have hzero : g.Fails root kind w.files → counts.of kind = 0 := by
      intro hf
      exact eq_zero_of_fails h hf hkind
    refine ⟨hon.trans hkind, hzero, ?_, top ++ [kind.name], h.package kind, ?_⟩
    · intro units hu hn
      exact eq_length_of_written h hu hn hkind
    intro place hp
    rw [hfiles counts hcounts, honf]
    cases kind with
    | contentTypes => exact (sameBut_outcome hfirst).get? (not_isOutput_below (by decide) hp)
    | sections => exact hsame.get? (not_isOutput_below (by decide) hp)

def withCatalogs (contentTypes sections : Text) : World :=
  let catalog (kind : CatalogKind) (content : Text) : Location × Entry :=
    ([kind.fileName], .file (Utf8.encodeAll content))
  ⟨⟨[catalog .contentTypes contentTypes, catalog .sections sections], []⟩, .empty [], [], [], []⟩

def inPlace : Generator := ⟨Path.here, .disk (Path.ofText "node_modules")⟩

def created (contentTypes sections : Text) : World :=
  ((create inPlace.source inPlace.output).result (withCatalogs contentTypes sections)).2

def oneSection : Text := "[\x7b\"name\":\"A\",\"schema\":\x7b\x7d\x7d]"

def surrogateTitle : Text :=
  "[\x7b\"configurationSchemaSets\":[\x7b\"configurations\":[\x7b\"schema\":\x7b\"title\":\"\\ud800\"\x7d\x7d]\x7d]\x7d]"

theorem generateAll_exact_malformed :
    ((inPlace.generateOnly .contentTypes).result (created "[" oneSection)).1 = .ok 0 ∧
      ((inPlace.generateOnly .sections).result (created "[" oneSection)).1 = .ok 1 := by
  have hc : (create inPlace.source (.disk (Path.ofText "node_modules"))).result
      (withCatalogs "[" oneSection) =
      (.ok inPlace, created "[" oneSection) := Prod.ext rfl rfl
  have ho : (inPlace.generateAll.result (created "[" oneSection)).1.toOption = some ⟨0, 1⟩ := by
    decide +kernel
  have hall : (inPlace.generateAll.result (created "[" oneSection)).1 = .ok ⟨0, 1⟩ := by
    cases hr : (inPlace.generateAll.result (created "[" oneSection)).1 with
    | ok counts =>
      rw [hr] at ho
      cases ho
      rfl
    | error e =>
      rw [hr] at ho
      cases ho
  have hkind := (generateAll_exact hc).2 ⟨0, 1⟩ hall
  exact ⟨(hkind .contentTypes).1, (hkind .sections).1⟩

theorem generateAll_loses_sections :
    (create inPlace.source (.disk (Path.ofText "node_modules"))).result
      (withCatalogs surrogateTitle oneSection) =
      (.ok inPlace, created surrogateTitle oneSection) ∧
    ∀ counts, (inPlace.generateAll.result (created surrogateTitle oneSection)).1 ≠ .ok counts := by
  refine ⟨Prod.ext rfl rfl, ?_⟩
  intro counts h
  have ho : (inPlace.generateAll.result (created surrogateTitle oneSection)).1.toOption = none := by
    decide +kernel
  rw [h] at ho
  cases ho

end Generator
end CatalogTypes
