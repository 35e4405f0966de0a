import CatalogTypes.CommandLine.Command

/-! # What is read from the environment

A generation sets no variable, and reads none once it is known where the catalogs are. It does the
same in all environments.
-/
namespace CatalogTypes

def World.within (w : World) (environment : Environment) : World := { w with environment }

namespace Run
variable {α β : Type}

/-- A run that neither reads nor sets a variable. -/
structure ReadsNone (run : Run α) : Prop where
  keeps (w : World) : (run.result w).2.environment = w.environment
  same (w : World) (environment : Environment) :
    run.result (w.within environment) = ((run.result w).1, (run.result w).2.within environment)

theorem readsNone_pure (a : α) : ReadsNone (pure a : Run α) := ⟨fun _ => rfl, fun _ _ => rfl⟩

theorem readsNone_throw (e : Failure) : ReadsNone (throw e : Run α) :=
  ⟨fun _ => rfl, fun _ _ => rfl⟩

theorem readsNone_note (level : LogLevel) (message : Text) : ReadsNone (note level message) :=
  ⟨fun _ => rfl, fun _ _ => rfl⟩

theorem readsNone_noteAll (entries : Log) : ReadsNone (noteAll entries) :=
  ⟨fun _ => rfl, fun _ _ => rfl⟩

theorem readsNone_onFiles (f : FileTree → Except Failure α) : ReadsNone (onFiles f) :=
  ⟨fun _ => rfl, fun _ _ => rfl⟩

theorem readsNone_changeFiles (f : FileTree → Except Failure Unit × FileTree) :
    ReadsNone (changeFiles f) :=
  ⟨fun _ => rfl, fun _ _ => rfl⟩

theorem readsNone_changeMemory (f : Memory → Except MemoryError Memory) :
    ReadsNone (changeMemory f) := by
  constructor
  · intro w
    simp only [changeMemory, result_ofResult]
    cases f w.memory <;> rfl
  · intro w environment
    simp only [changeMemory, result_ofResult, World.within]
    cases f w.memory <;> rfl

theorem ReadsNone.attempt {run : Run α} (h : ReadsNone run) : ReadsNone run.attempt :=
  ⟨h.keeps, fun w environment => by rw [result_attempt, result_attempt, h.same w environment]⟩

theorem ReadsNone.bind {run : Run α} {f : α → Run β} (h : ReadsNone run)
    (hf : ∀ a, ReadsNone (f a)) :
    ReadsNone (run >>= f) := by
  constructor
  · intro w
    have hw := h.keeps w
    rw [result_bind]
    rcases hr : run.result w with ⟨answer, next⟩
    rw [hr] at hw
    cases answer with
    | error e => exact hw
    | ok a => exact ((hf a).keeps next).trans hw
  · intro w environment
    rw [result_bind, result_bind, h.same w environment]
    rcases run.result w with ⟨answer, next⟩
    cases answer with
    | error e => rfl
    | ok a => exact (hf a).same next environment

end Run

open Run

namespace Output

theorem readsNone_ensureDirectory (path : Text) (out : Output) :
    ReadsNone (out.ensureDirectory path) := by
  cases out with
  | memory => exact readsNone_changeMemory fun m => .ok (m.ensureDirectory path)
  | disk root => exact readsNone_changeFiles fun files => files.makeDirectories (place root path)
  | none => exact readsNone_throw _

theorem readsNone_write (path content : Text) (out : Output) :
    ReadsNone (out.write path content) := by
  cases out with
  | memory => exact readsNone_changeMemory fun m => m.write path content
  | disk root => exact (readsNone_changeFiles _).bind fun _ => readsNone_note _ _
  | none => exact readsNone_throw _

end Output

namespace Package

theorem readsNone_prepare (out : Output) (package : Text) : ReadsNone (prepare out package) :=
  (out.readsNone_ensureDirectory _).bind fun _ => out.readsNone_ensureDirectory _

theorem readsNone_writeAll (out : Output) (files : List OutputFile) :
    ReadsNone (writeAll out files) := by
  induction files with
  | nil => exact readsNone_pure _
  | cons file files ih => exact (out.readsNone_write _ _).bind fun _ => ih

theorem readsNone_emit (out : Output) (package : Text) (units : List TypeUnit) :
    ReadsNone (emit out package units) := by
  refine (readsNone_prepare out package).bind fun _ => (readsNone_writeAll out _).bind fun _ => ?_
  split
  · exact readsNone_pure _
  · exact (readsNone_note _ _).bind fun _ => readsNone_pure _

end Package

theorem readsNone_walkFile (kind : Option CatalogKind) (observed : Bool) (p : Path) :
    ReadsNone (walkFile kind observed p) := by
  refine (readsNone_onFiles _).bind fun catalog => ?_
  cases kind with
  | none => exact readsNone_throw _
  | some kind => exact (readsNone_note _ _).bind fun _ =>
    (readsNone_noteAll _).bind fun _ => readsNone_pure _

theorem readsNone_unitsOfFile (kind : CatalogKind) (p : Path) : ReadsNone (unitsOfFile kind p) := by
  refine (readsNone_walkFile _ _ p).bind fun walk => ?_
  split
  · exact readsNone_pure _
  · exact readsNone_throw _

namespace Generator
variable (g : Generator) (kind : CatalogKind)

theorem readsNone_create (source : Path) (output : Output) : ReadsNone (create source output) :=
  (Package.readsNone_prepare output _).bind fun _ =>
    (Package.readsNone_prepare output _).bind fun _ => readsNone_pure _

theorem readsNone_write (units : List TypeUnit) : ReadsNone (g.write kind units) := by
  refine (Package.readsNone_emit _ _ units).attempt.bind fun answer => ?_
  split
  · exact readsNone_pure _
  · split
    · exact readsNone_throw _
    · exact (readsNone_note _ _).bind fun _ => readsNone_pure _

theorem readsNone_generate : ReadsNone (g.generate kind) := by
  refine (readsNone_unitsOfFile kind _).attempt.bind fun answer => ?_
  split
  · exact g.readsNone_write kind _
  · split
    · exact readsNone_throw _
    · exact (readsNone_note _ _).bind fun _ => readsNone_pure _

theorem readsNone_generateAll : ReadsNone g.generateAll := by
  refine (readsNone_note _ _).bind fun _ => (readsNone_note _ _).bind fun _ =>
    (readsNone_note _ _).bind fun _ => ?_
  refine (g.readsNone_generate _).bind fun _ => (readsNone_note _ _).bind fun _ =>
    (readsNone_note _ _).bind fun _ => ?_
  refine (g.readsNone_generate _).bind fun _ => (readsNone_note _ _).bind fun _ =>
    (readsNone_note _ _).bind fun _ => ?_
  refine (readsNone_note _ _).bind fun _ => (readsNone_note _ _).bind fun _ =>
    (readsNone_note _ _).bind fun _ => ?_
  exact (readsNone_note _ _).bind fun _ => readsNone_pure _

theorem readsNone_generateOnly : ReadsNone (g.generateOnly kind) := by
  refine (readsNone_note _ _).bind fun _ => (g.readsNone_generate kind).bind fun count => ?_
  split
  · exact (readsNone_note _ _).bind fun _ => readsNone_pure _
  · exact readsNone_pure _

end Generator

namespace CommandLine

theorem readsNone_generateEach (g : Generator) (kinds : List CatalogKind) :
    ReadsNone (generateEach g kinds) := by
  induction kinds with
  | nil => exact readsNone_pure _
  | cons kind kinds ih =>
    exact (g.readsNone_generateOnly kind).bind fun _ => ih.bind fun _ => readsNone_pure _

theorem readsNone_generate {source : Run Path} (h : ReadsNone source) (o : Options)
    (output : Path) :
    ReadsNone (generate o source output) := by
  refine h.bind fun source => (Generator.readsNone_create source _).bind fun g => ?_
  split
  · exact g.readsNone_generateAll.bind fun _ => readsNone_pure _
  · exact (readsNone_generateEach g _).bind fun _ => readsNone_pure _

end CommandLine
end CatalogTypes
