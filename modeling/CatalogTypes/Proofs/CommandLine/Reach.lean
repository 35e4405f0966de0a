import Mathlib.Data.List.Forall2
import CatalogTypes.Proofs.CommandLine.Directories
import CatalogTypes.Proofs.Generation.Disk

/-! # The reach of the command

Listing and checking ask the files and change none of them. Otherwise each catalog that was
requested is generated once, whatever became of those before it, and the exit code tells whether all
of them gave a package. Files elsewhere stay as they are.
-/
namespace CatalogTypes
open FileTree Package

namespace Run
variable {α β : Type}

/-- A run that leaves the files as they are, however it ends. -/
def Asks (run : Run α) : Prop := ∀ w, (run.result w).2.files = w.files

theorem asks_pure (a : α) : Asks (pure a : Run α) := fun _ => rfl

theorem asks_note (level : LogLevel) (message : Text) : Asks (note level message) := fun _ => rfl

theorem Asks.bind {run : Run α} {f : α → Run β} (h : Asks run) (hf : ∀ a, Asks (f a)) :
    Asks (run >>= f) := by
  intro w
  have hw := h w
  rw [result_bind]
  rcases hr : run.result w with ⟨answer, next⟩
  rw [hr] at hw
  cases answer with
  | error e => exact hw
  | ok a => exact (hf a next).trans hw

theorem Tells.asks {run : Run α} (h : Tells run) : Asks run := by
  intro w
  obtain ⟨answer, entries, htold⟩ := h w.files
  rw [htold w rfl]
  rfl

end Run

open Run

namespace Settings

theorem asks_run (library : Dotenv) (file? : Option Path) (override : Bool) :
    Asks (library.run file? override) :=
  fun _ => rfl

theorem asks_load (requested : Option Text) (library : Dotenv) : Asks (load requested library) := by
  refine .bind (fun _ => rfl) fun w => ?_
  simp only
  split
  · split
    · exact (asks_run _ _ _).bind fun _ => asks_note _ _
    · exact asks_note _ _
  · refine (asks_run _ _ _).bind fun _ => ?_
    split
    · exact asks_note _ _
    · exact asks_pure _

end Settings

namespace Status

theorem asks_available (output : Path) : Asks (available output) := (tells_available output).asks

theorem asks_complete (output : Path) : Asks (complete output) := (tells_complete output).asks

end Status

/-- Two worlds that differ in their log alone. -/
def Reports (w next : World) : Prop := next = { w with log := next.log }

section Reports
variable {w middle next : World}

theorem reports_log (w : World) (log : Log) : Reports w { w with log := log } := rfl

theorem Reports.trans (h : Reports w middle) (h' : Reports middle next) : Reports w next := by
  unfold Reports at h h' ⊢
  rw [h', h]

theorem Reports.files (h : Reports w next) : next.files = w.files := by rw [h]

end Reports

namespace Generator

/-- Catalogs are generated in turn, each of them once, with the numbers of types that they give. All
that happens besides is reported. -/
inductive Performs (g : Generator) : List CatalogKind → World → List Nat → World → Prop where
  | done {w next : World} (h : Reports w next) : Performs g [] w [] next
  | turn {kind : CatalogKind} {kinds : List CatalogKind} {w begun middle next : World} {count : Nat}
    {counts : List Nat} (hb : Reports w begun)
    (hr : (g.generate kind).result begun = (.ok count, middle))
    (h : Performs g kinds middle counts next) : Performs g (kind :: kinds) w (count :: counts) next

section Performs
variable {g : Generator} {kind : CatalogKind} {kinds others : List CatalogKind}
  {w middle next : World} {counts more : List Nat}

theorem Performs.after_reports (hw : Reports w middle) (h : Performs g kinds middle counts next) :
    Performs g kinds w counts next := by
  cases h with
  | done h => exact .done (hw.trans h)
  | turn hb hr h => exact .turn (hw.trans hb) hr h

theorem Performs.append (h : Performs g kinds w counts middle)
    (h' : Performs g others middle more next) :
    Performs g (kinds ++ others) w (counts ++ more) next := by
  induction h with
  | done hw => exact h'.after_reports hw
  | turn hb hr _ ih => exact .turn hb hr (ih h')

theorem Performs.before_reports (h : Performs g kinds w counts middle) (hr : Reports middle next) :
    Performs g kinds w counts next := by
  have happend := h.append (.done hr)
  rwa [List.append_nil, List.append_nil] at happend

theorem performs_generateAll {counts : Counts} (h : g.generateAll.result w = (.ok counts, next)) :
    Performs g CatalogKind.all w [counts.contentTypes, counts.sections] next := by
  simp only [generateAll, Run.result_bind, Run.result_info] at h
  split at h
  next contentTypes middle hr =>
    split at h
    next sections last hr' =>
      cases h
      exact .turn (reports_log _ _) hr (.turn (reports_log _ _) hr' (.done (reports_log _ _)))
    next => cases h
  next => cases h

theorem performs_generateOnly {count : Nat}
    (h : (g.generateOnly kind).result w = (.ok count, next)) :
    Performs g [kind] w [count] next := by
  simp only [generateOnly, Run.result_bind, Run.result_info] at h
  split at h
  next made last hr =>
    split at h
    · cases h
      exact .turn (reports_log _ _) hr (.done (reports_log _ _))
    · cases h
      exact .turn (reports_log _ _) hr (.done (reports_log _ _))
  next => cases h

end Performs

/-- A catalog gives types, and all files of its package can be written and are there afterwards,
beside those that were there before. -/
def Delivers (g : Generator) (root : Path) (top : Location) (kind : CatalogKind)
    (before after : FileTree) : Prop :=
  ∃ units, unitsIn before kind (g.catalogPath kind) = .ok units ∧ units ≠ [] ∧
    firstFailure? before root (files kind.name units) = none ∧
    Mirrors kind.name (top ++ [kind.name]) before (stored (files kind.name units) []) after

section Delivers
variable {g : Generator} {root : Path} {top : Location} {kind : CatalogKind}
  {tree other after later : FileTree}

/-- It matters neither what became of other files before, nor what became of other packages
after. -/
theorem Delivers.congr {changed : Location → Prop} (h : Ready tree root top)
    (hs : SameBut changed tree other) (hc : ∀ dir, ¬ changed (dir ++ [kind.fileName]))
    (hp : ∀ name, ¬ changed (top ++ [kind.name] ++ [name]))
    (ha : ∀ name, later.get? (top ++ [kind.name] ++ [name]) =
      after.get? (top ++ [kind.name] ++ [name])) :
    g.Delivers root top kind other later ↔ g.Delivers root top kind tree after := by
  have hcatalog : ∀ place, tree.resolve (g.catalogPath kind) = .ok place → ¬ changed place := by
    intro place hr
    obtain ⟨dir, rfl⟩ := exists_eq_append_of_resolve hr
    exact hc dir
  apply exists_congr
  intro units
  rw [unitsIn_eq_ok_iff hs hcatalog]
  apply and_congr_right
  intro hu
  rw [firstFailure?_of_sameBut (h.package kind)
    (liesIn_files root kind (wellFormed_of_unitsIn hu)) hs]
  simp only [Mirrors, ha, hs.get? (hp _)]

theorem delivers_iff_of_outcome (h : Ready tree root top) {count : Nat}
    (hc : (g.outcome root kind tree).1 = .ok count) :
    0 < count ↔ g.Delivers root top kind tree (g.outcome root kind tree).2 := by
  cases hu : unitsIn tree kind (g.catalogPath kind) with
  | error e =>
    have hzero := eq_zero_of_fails h (.inl ⟨e, hu⟩) hc
    simp [Delivers, hu, hzero]
  | ok units =>
    have hi := wellFormed_of_unitsIn hu
    have hw := writeFiles_eq (h.package kind) (liesIn_files root kind hi)
    cases hf : firstFailure? tree root (files kind.name units) with
    | some e =>
      have hzero := eq_zero_of_fails h (.inr ⟨units, e, hu, hf⟩) hc
      simp [Delivers, hu, hf, hzero]
    | none =>
      rw [hf] at hw
      have hm := mirrors_files h kind hi hw
      rw [eq_length_of_written h hu hf hc, outcome_of_ok hu]
      simp [Delivers, hu, hf, hm, List.length_pos_iff]

end Delivers

/-- What a run over several catalogs leaves: their packages, each of them as its number tells, and
everything else as it was. -/
theorem Performs.exact {g : Generator} {root : Path} {top : Location} {kinds : List CatalogKind}
    {w next : World} {counts : List Nat} (hp : Performs g kinds w counts next)
    (ho : g.output = .disk root) (h : Ready w.files root top) (hd : kinds.Nodup) :
    SameBut (fun place => ∃ kind ∈ kinds, IsOutput top kind place) w.files next.files ∧
      List.Forall₂ (fun kind count => 0 < count ↔ g.Delivers root top kind w.files next.files) kinds
        counts := by
  induction hp with
  | done hw =>
    rw [hw.files]
    exact ⟨.refl _ _, .nil⟩
  | @turn kind kinds w begun middle next count counts hb hr _ ih =>
    rw [← hb.files] at h ⊢
    obtain ⟨hcount, hfiles⟩ := generate_eq hr ho h
    have hfirst : SameBut (IsOutput top kind) begun.files middle.files := hfiles ▸ sameBut_outcome h
    obtain ⟨hn, hd⟩ := List.nodup_cons.mp hd
    obtain ⟨hrest, hcounts⟩ := ih (h.of_sameBut hfirst) hd
    have hne : ∀ other ∈ kinds, other ≠ kind := by
      rintro other hm rfl
      exact hn hm
    have hlater (name : Text) : next.files.get? (top ++ [kind.name] ++ [name]) =
        middle.files.get? (top ++ [kind.name] ++ [name]) := by
      apply hrest.get?
      rintro ⟨other, hm, hout⟩
      exact not_isOutput_below (hne other hm).symm (List.prefix_append _ _) hout
    refine ⟨(hfirst.mono ?_).trans (hrest.mono ?_), .cons ?_ ?_⟩
    · exact fun place hout => ⟨kind, List.mem_cons_self, hout⟩
    · rintro place ⟨other, hm, hout⟩
      exact ⟨other, List.mem_cons_of_mem _ hm, hout⟩
    · rw [delivers_iff_of_outcome h hcount, hfiles]
      exact (Delivers.congr h (.refl (fun _ => False) _) (fun _ => id) (fun _ => id) hlater).symm
    · refine List.Forall₂.imp ?_ ((List.forall₂_and_left kinds counts).mpr ⟨hne, hcounts⟩)
      rintro other n ⟨hother, hn'⟩
      rw [hn']
      exact Delivers.congr h hfirst (fun dir => not_isOutput_catalog top dir kind other)
        (fun name => not_isOutput_below hother (List.prefix_append _ _)) fun _ => rfl

end Generator

namespace CommandLine
open Generator Status

def Options.picks (o : Options) : CatalogKind → Bool
  | .contentTypes => o.contentTypes
  | .sections => o.sections

/-- The catalogs that a call generates: all of them on demand or if none is picked, else those that
are. -/
def requested (o : Options) : List CatalogKind :=
  if o.all || CatalogKind.all.all (!o.picks ·) then CatalogKind.all
  else CatalogKind.all.filter o.picks

theorem selected_eq (o : Options) :
    selected o = none ∧ requested o = CatalogKind.all ∨ selected o = some (requested o) := by
  obtain ⟨all, contentTypes, sections, _, _, _, _⟩ := o
  cases all <;> cases contentTypes <;> cases sections <;>
    simp [selected, requested, Options.picks, CatalogKind.all, List.filter_cons]

theorem nodup_requested (o : Options) : (requested o).Nodup := by
  have hall : CatalogKind.all.Nodup := by decide
  rw [requested]
  split
  · exact hall
  · exact hall.filter _

variable {library : Dotenv} {o : Options} {output : Path} {w next : World}

theorem performs_generateEach {g : Generator} {kinds : List CatalogKind} {counts : List Nat}
    (h : (generateEach g kinds).result w = (.ok counts, next)) :
    Performs g kinds w counts next := by
  induction kinds generalizing w counts with
  | nil =>
    cases h
    exact .done (reports_log _ _)
  | cons kind kinds ih =>
    obtain ⟨count, middle, hr, h⟩ := result_bind_eq_ok h
    obtain ⟨more, last, hm, h⟩ := result_bind_eq_ok h
    cases h
    exact (performs_generateOnly hr).append (ih hm)

theorem performs_generate {success : Bool}
    (h : (generate o (sourceDirectory o) output).result w = (.ok success, next)) :
    ∃ source start counts, (sourceDirectory o).result w = (.ok source, w) ∧
      (create source (.disk output)).result w = (.ok ⟨source, .disk output⟩, start) ∧
      Performs ⟨source, .disk output⟩ (requested o) start counts next ∧
      success = counts.all (0 < ·) := by
  have hs := result_sourceDirectory o w
  rw [generate, result_bind, hs] at h
  obtain ⟨g, start, hc, h⟩ := result_bind_eq_ok h
  have hg : g = ⟨sourceIn o w, .disk output⟩ := by
    obtain ⟨_, _, _, hc⟩ := result_bind_eq_ok hc
    obtain ⟨_, _, _, hc⟩ := result_bind_eq_ok hc
    cases hc
    rfl
  subst hg
  rcases selected_eq o with ⟨hn, hall⟩ | hsome
  · simp only [hn] at h
    obtain ⟨counts, last, hr, h⟩ := result_bind_eq_ok h
    cases h
    exact ⟨_, start, _, hs, hc, hall ▸ performs_generateAll hr, by simp⟩
  · simp only [hsome] at h
    obtain ⟨counts, last, hr, h⟩ := result_bind_eq_ok h
    cases h
    exact ⟨_, start, counts, hs, hc, performs_generateEach hr, rfl⟩

theorem checkAll_iff {kinds : List CatalogKind} {all : Bool}
    (h : (checkAll output kinds).result w = (.ok all, next)) :
    all = true ↔ ∀ kind ∈ kinds, w.files.exists? (indexPath output kind) = .ok true := by
  induction kinds generalizing w all next with
  | nil =>
    cases h
    simp
  | cons kind kinds ih =>
    obtain ⟨found, asked, hf, hf'⟩ := result_bind_eq_ok h
    have hexists : w.files.exists? (indexPath output kind) = .ok found := (Prod.mk.inj hf).1
    obtain rfl : w = asked := (Prod.mk.inj hf).2
    obtain ⟨_, noted, hn, hn'⟩ := result_bind_eq_ok hf'
    obtain ⟨rest, last, hr, hr'⟩ := result_bind_eq_ok hn'
    have hfiles : noted.files = w.files := by rw [← (Prod.mk.inj hn).2]
    have hall : (rest && found) = all := by simpa using (Prod.mk.inj hr').1
    rw [← hall, Bool.and_eq_true, ih hr, hfiles, List.forall_mem_cons, hexists, and_comm,
      Except.ok.injEq]

theorem complete_iff {all : Bool} (h : (complete output).result w = (.ok all, next)) :
    all = true ↔ ∀ kind, w.files.exists? (indexPath output kind) = .ok true := by
  obtain ⟨_, noted, hn, hn'⟩ := result_bind_eq_ok h
  obtain ⟨found, last, hc, hc'⟩ := result_bind_eq_ok hn'
  have hfiles : noted.files = w.files := by rw [← (Prod.mk.inj hn).2]
  have hall : found = all := by
    cases found with
    | true => simpa using (Prod.mk.inj hc').1
    | false => simpa using (Prod.mk.inj hc').1
  rw [← hall, checkAll_iff hc, hfiles]
  constructor
  · intro hk kind
    exact hk kind (by cases kind <;> decide)
  · intro hk kind _
    exact hk kind

theorem exitCode_le (success : Bool) : exitCode success ≤ 1 := by
  cases success <;> decide

theorem exitCode_eq_zero_iff {success : Bool} : exitCode success = 0 ↔ success = true := by
  cases success <;> decide

theorem forall_mem_iff_of_forall₂ {α β : Type} {p : α → Prop} {q : β → Prop} {as : List α}
    {bs : List β} (h : List.Forall₂ (fun a b => q b ↔ p a) as bs) :
    (∀ b ∈ bs, q b) ↔ ∀ a ∈ as, p a := by
  induction h with
  | nil => simp
  | cons hab _ ih => rw [List.forall_mem_cons, List.forall_mem_cons, hab, ih]

/-- What a call that generates does once the output directory is known: the directories of the
packages are made, and each catalog that was requested is generated once. Files other than those of
its packages stay as they are, and the exit code is zero when all of the packages are delivered. -/
def Generates (o : Options) (output : Path) (ready : World) (code : Nat) (next : World) : Prop :=
  ∃ source start counts top, (sourceDirectory o).result ready = (.ok source, ready) ∧
    (create source (.disk output)).result ready = (.ok ⟨source, .disk output⟩, start) ∧
    start.files.LeadsTo (Output.place output Package.scope) top ∧
    Performs ⟨source, .disk output⟩ (requested o) start counts next ∧
    (∀ place content, (∀ kind ∈ requested o, ¬ IsOutput top kind place) →
      (next.files.get? place = some (.file content) ↔
        ready.files.get? place = some (.file content))) ∧
    code ≤ 1 ∧
    (code = 0 ↔ ∀ kind ∈ requested o, Delivers ⟨source, .disk output⟩ output top kind start.files
      next.files)

theorem generates_of_generate {ready generated : World} {success : Bool}
    (h : (generate o (sourceDirectory o) output).result ready = (.ok success, generated))
    (hr : Reports generated next) :
    Generates o output ready (exitCode success) next := by
  obtain ⟨source, start, counts, hs, hc, hgenerated, rfl⟩ := performs_generate h
  have hp := hgenerated.before_reports hr
  obtain ⟨ho, top, hready⟩ := ready_of_create hc
  obtain ⟨hsame, hcounts⟩ := hp.exact ho hready (nodup_requested o)
  have hgrows := grows_of_create source output ready
  rw [hc] at hgrows
  refine ⟨source, start, counts, top, hs, hc, hready.scope, hp, ?_, exitCode_le _, ?_⟩
  · intro place content hplace
    rw [hsame.get? (by simpa using hplace), hgrows.get?_file]
  · rw [exitCode_eq_zero_iff, List.all_eq_true, ← forall_mem_iff_of_forall₂ hcounts]
    simp only [decide_eq_true_eq]

theorem serve_reach {ready : World} {code : Nat}
    (h : (serve o (sourceDirectory o) output).result ready = (.ok code, next)) :
    (o.list → code = 0 ∧ next.files = ready.files) ∧
      (¬ o.list → o.status → next.files = ready.files ∧ code ≤ 1 ∧
        (code = 0 ↔ ∀ kind, ready.files.exists? (indexPath output kind) = .ok true)) ∧
      (¬ o.list → ¬ o.status → Generates o output ready code next) := by
  unfold serve at h
  refine ⟨fun hl => ?_, fun hl hs => ?_, fun hl hs => ?_⟩
  · rw [if_pos hl] at h
    obtain ⟨_, listed, ha, hcode⟩ := result_bind_eq_ok h
    have hlisted := asks_available output ready
    rw [ha] at hlisted
    cases hcode
    exact ⟨rfl, hlisted⟩
  · rw [if_neg hl, if_pos hs] at h
    obtain ⟨all, checked, hc, hcode⟩ := result_bind_eq_ok h
    have hchecked := asks_complete output ready
    rw [hc] at hchecked
    cases hcode
    refine ⟨hchecked, exitCode_le all, ?_⟩
    rw [exitCode_eq_zero_iff, complete_iff hc]
  · rw [if_neg hl, if_neg hs] at h
    obtain ⟨success, generated, hg, hreport⟩ := result_bind_eq_ok h
    cases success with
    | true =>
      cases hreport
      exact generates_of_generate hg (reports_log _ _)
    | false =>
      cases hreport
      exact generates_of_generate hg (reports_log _ _)

/-- How far a call reaches that comes to an end. -/
theorem call_reach {arguments : List Text} {code : Nat}
    (h : (call arguments library).result w = (.ok (.finished code), next)) :
    ∃ o output ready, request arguments = .run o ∧
      (Settings.load none library >>= fun _ => outputDirectory o).result w = (.ok output, ready) ∧
      ready.files = w.files ∧
      (o.list → code = 0 ∧ next.files = w.files) ∧
      (¬ o.list → o.status → next.files = w.files ∧ code ≤ 1 ∧
        (code = 0 ↔ ∀ kind, w.files.exists? (indexPath output kind) = .ok true)) ∧
      (¬ o.list → ¬ o.status → Generates o output ready code next) := by
  rw [call] at h
  split at h
  next => cases h
  next => cases h
  next o ho =>
    obtain ⟨_, last, hperform, hlast⟩ := result_bind_eq_ok h
    cases hlast
    obtain ⟨_, loaded, hload, hrest⟩ := result_bind_eq_ok hperform
    obtain ⟨output, ready, houtput, hserve⟩ := result_bind_eq_ok hrest
    have hfiles : ready.files = w.files := by
      have hl := Settings.asks_load none library w
      rw [hload] at hl
      rw [result_outputDirectory] at houtput
      exact (congrArg (World.files ∘ Prod.snd) houtput).symm.trans hl
    refine ⟨o, output, ready, ho, by rw [result_bind, hload]; exact houtput, hfiles, ?_⟩
    rw [← hfiles]
    exact serve_reach hserve

theorem call_reach_sections : ∃ output ready next,
    (call ["--sections"] (.standard [])).result (withCatalogs "[" oneSection) =
      (.ok (.finished 0), next) ∧
      Generates { Options.none with sections := true } output ready 0 next := by
  have ha : ((call ["--sections"] (.standard [])).result (withCatalogs "[" oneSection)).1 =
      .ok (.finished 0) :=
    eq_ok_of_toOption (by decide +kernel)
  have hr : request ["--sections"] = .run { Options.none with sections := true } := by
    decide +kernel
  obtain ⟨next, hn⟩ : ∃ next,
      ((call ["--sections"] (.standard [])).result (withCatalogs "[" oneSection)).2 = next :=
    ⟨_, rfl⟩
  have hc : (call ["--sections"] (.standard [])).result (withCatalogs "[" oneSection) =
      (.ok (.finished 0), next) :=
    Prod.ext ha hn
  obtain ⟨o, output, ready, ho, _, _, _, _, hg⟩ := call_reach hc
  cases hr.symm.trans ho
  exact ⟨output, ready, next, hc, hg (by decide) (by decide)⟩

end CommandLine
end CatalogTypes
