import CatalogTypes.Proofs.CommandLine.Appended
import CatalogTypes.Proofs.CommandLine.Directories
import CatalogTypes.Proofs.CommandLine.Reach
import CatalogTypes.Proofs.Status.Listing

/-! # The output directory, as an argument and as a variable

An output directory that is given by a variable is looked at before anything is done in it, and
refused if it is a file. One that is given as an argument is taken as it is. If the settings are
loaded alike, everything that follows is the same, so a file is the only thing in its place that
makes a difference. Two hyphens are no directory as an argument, but they are one as a variable.
-/
namespace CatalogTypes
open FileTree Package Run Settings

def World.withOutput (w : World) (directory : Text) : World :=
  w.within (Association.put outputVariable directory w.environment)

namespace CommandLine
open Status
variable {library : Dotenv} {home : Location} {o : Options} {source output : Path} {w ready : World}
  {arguments flagged : List Text} {directory : Text} {obstacle : Obstacle} {t : Text}
  {lines : List EnvFile.Line}

section Directory
variable {files : FileTree} {p : Path}

theorem checkDirectory_of_tooLong (h : files.TooLong p) :
    checkDirectory files p = .error (.file .nameTooLong p.toText) := by
  rw [checkDirectory, exists?_of_tooLong h]
  rfl

theorem checkDirectory_of_file {content : Utf8.Bytes} (h : files.entryAt p = some (.file content)) :
    checkDirectory files p = .error (.outputNotDirectory p.toText) := by
  have ht := not_tooLong_of_entryAt h
  rw [checkDirectory, exists?_of_not_tooLong ht, isDirectory?, entry?_of_not_tooLong ht, h]
  rfl

theorem checkDirectory_of_no_file (ht : ¬ files.TooLong p)
    (h : ∀ content, files.entryAt p ≠ some (.file content)) : checkDirectory files p = .ok () := by
  rw [checkDirectory, exists?_of_not_tooLong ht, isDirectory?, entry?_of_not_tooLong ht]
  rcases hentry : files.entryAt p with _ | _ | content
  · rfl
  · rfl
  · exact absurd hentry (h content)

end Directory

theorem generate_of_resolve_error
    (h : w.files.resolve (output.child Package.scope) = .error (.file obstacle t))
    (ho : obstacle ≠ .missing) :
    (generate o (pure source) output).result w = (.error (.file obstacle t), w) := by
  have hscope : (Output.ensureDirectory Package.scope (.disk output)).result w =
      (.error (.file obstacle t), w) := by
    rw [Output.ensureDirectory, result_changeFiles, place_scope,
      makeDirectories_of_resolve_error h ho]
  have hprepare (package : Text) :
      (prepare (.disk output) package).result w = (.error (.file obstacle t), w) := by
    rw [prepare, result_bind, hscope]
  rw [generate, pure_bind, result_bind, Generator.create, result_bind, hprepare]

/-- A path that is too long is refused, whatever is asked for. -/
theorem serve_of_tooLong (o : Options) (source : Path) (h : w.files.TooLong output) :
    ∃ t next, (serve o (pure source) output).result w = (.error (.file .nameTooLong t), next) ∧
      next.files = w.files := by
  have hindex (kind : CatalogKind) : w.files.TooLong (indexPath output kind) := by
    rw [indexPath_eq, place_fullName, place_scope]
    exact ((h.child isName_scope).child (isName_name kind)).child isFileName_indexName.isName
  have hall : CatalogKind.all = [] ++ .contentTypes :: [.sections] := rfl
  unfold serve
  split
  · have hlist :=
      says_available_refused hall (List.forall_mem_nil _) (.tooLong (hindex .contentTypes))
    rw [hlist.bind_error]
    exact ⟨_, _, rfl, rfl⟩
  · split
    · have hcheck := says_complete_refused hall (List.forall_mem_nil _) (hindex .contentTypes)
      rw [hcheck.bind_error]
      exact ⟨_, _, rfl, rfl⟩
    · have hscope := resolve_of_tooLong (h.child isName_scope)
      rw [result_bind, generate_of_resolve_error hscope (by decide)]
      exact ⟨_, _, rfl, rfl⟩

theorem indexIn_of_file {content : Utf8.Bytes} (h : w.files.entryAt output = some (.file content))
    (kind : CatalogKind) :
    indexIn w.files output kind = none := by
  have hscope := follow_child_of_file h Package.scope
  rw [indexIn, indexPath_eq, place_fullName, place_scope]
  exact entryAt_of_follow_error
    (follow_child_of_error (follow_child_of_error hscope kind.name) indexName)

/-- Below a file there is nothing to list, and nothing can be made. -/
theorem serve_of_file (o : Options) (source : Path) {content : Utf8.Bytes}
    (h : w.files.entryAt output = some (.file content)) :
    ∃ answer next, (serve o (pure source) output).result w = (answer, next) ∧ next.files = w.files ∧
      ((∃ code, answer = .ok code) ∨ ∃ obstacle t, answer = .error (.file obstacle t)) := by
  unfold serve
  split
  · by_cases hall : ∀ kind ∈ CatalogKind.all, Legible w.files output kind
    · rw [result_bind, says_available hall]
      exact ⟨_, _, rfl, rfl, .inl ⟨_, rfl⟩⟩
    · obtain ⟨front, first, back, hkinds, hf, hfirst⟩ := exists_first_not hall
      obtain ⟨e, he⟩ := (legible_or_refused w.files output first).resolve_left hfirst
      rw [(says_available_refused hkinds hf he).bind_error]
      refine ⟨_, _, rfl, rfl, .inr ?_⟩
      cases he with
      | tooLong => exact ⟨_, _, rfl⟩
      | noText _ hi _ => cases (indexIn_of_file h first).symm.trans hi
  · split
    · by_cases hall : ∀ kind ∈ CatalogKind.all, Askable w.files output kind
      · rw [result_bind, says_complete hall]
        exact ⟨_, _, rfl, rfl, .inl ⟨_, rfl⟩⟩
      · obtain ⟨front, first, back, hkinds, hf, hfirst⟩ := exists_first_not hall
        rw [(says_complete_refused hkinds hf (not_not.mp hfirst)).bind_error]
        exact ⟨_, _, rfl, rfl, .inr ⟨_, _, rfl⟩⟩
    · obtain ⟨obstacle, ho, hr⟩ := resolve_child_of_file h isName_scope
      rw [result_bind, generate_of_resolve_error hr ho]
      exact ⟨_, _, rfl, rfl, .inr ⟨_, _, rfl⟩⟩

def unplaced : Failure → Failure
  | .file obstacle _ => .file obstacle []
  | e => e

/-- The exit code of a call, or the kind of its failure. -/
def ending (answer : Except Failure Outcome) : Except Failure Nat :=
  (answer.map Outcome.code).mapError unplaced

/-- Two calls that end with the same exit code or the same kind of failure, and leave the same
files. -/
structure EndAlike (x y : Except Failure Outcome × World) : Prop where
  ending : ending x.1 = ending y.1
  files : x.2.files = y.2.files

/-- Settings that are loaded in two worlds with failures of one kind, or else so that only variables
differ, and not the one for the catalogs. -/
inductive LoadAlike (library : Dotenv) (w w' : World) : Prop where
  | loaded {ready : World} {environment : Environment}
    (h : (load none library).result w = (.ok (), ready))
    (h' : (load none library).result w' = (.ok (), ready.within environment))
    (hs : environment.lookup sourceVariable = ready.environment.lookup sourceVariable)
  | failed {e e' : Failure} {next next' : World}
    (h : (load none library).result w = (.error e, next))
    (h' : (load none library).result w' = (.error e', next')) (he : unplaced e = unplaced e')

section Load
variable (he : w.environment.lookup environmentVariable = none)

theorem files_of_load {answer : Except Failure Unit}
    (h : (load none library).result w = (answer, ready)) :
    ready.files = w.files := by
  have hl := asks_load none library w
  rwa [h] at hl

theorem lookup_withOutput_of_ne {name : Text} (h : name ≠ outputVariable) :
    (w.withOutput directory).environment.lookup name = w.environment.lookup name :=
  Association.lookup_put_of_ne h _ _

theorem consulted?_withOutput : consulted? home (w.withOutput directory) = consulted? home w := by
  have henvironment := @lookup_withOutput_of_ne w directory environmentVariable (by decide)
  have hdisabled : Dotenv.disabled (w.withOutput directory).environment =
      Dotenv.disabled w.environment := by
    rw [Dotenv.disabled, Dotenv.disabled, lookup_withOutput_of_ne (by decide)]
  rw [consulted?_eq (congrArg (Option.getD · []) henvironment), hdisabled]
  rfl

include he

theorem unset_withOutput :
    (w.withOutput directory).environment.lookup environmentVariable = none :=
  (lookup_withOutput_of_ne (by decide)).trans he

/-- In an environment without a name only the default file is loaded. -/
theorem result_load_of_unset :
    (load none library).result w = (library.run none false).result w := by
  rw [load, result_bind]
  change Run.result
    (if named.contains ((w.environment.lookup environmentVariable).getD []) then _ else _) w = _
  rw [he]
  exact congrFun (congrArg Run.result (bind_pure (library.run none false))) w

/-- A default file of simple lines is loaded alike, whatever the output directory is. -/
theorem loadAlike_of_consults (hlib : library.Correct home) (hc : Consults home w lines)
    (directory : Text) :
    LoadAlike library w (w.withOutput directory) ∧ ((load none library).result w).1 = .ok () := by
  have he' := @unset_withOutput w directory he
  have hc' : Consults home (w.withOutput directory) lines := fun file override hfile =>
    hc file override (consulted?_withOutput.symm.trans hfile)
  have hnamed : named.contains [] = false := by decide
  obtain ⟨environment, hrun, hvalue⟩ :=
    exists_result_run_default hlib hc (congrArg (Option.getD · []) he) hnamed
  obtain ⟨environment', hrun', hvalue'⟩ :=
    exists_result_run_default hlib hc' (congrArg (Option.getD · []) he') hnamed
  rw [← result_load_of_unset he] at hrun
  rw [← result_load_of_unset he'] at hrun'
  refine ⟨.loaded hrun hrun' ?_, congrArg Prod.fst hrun⟩
  rw [hvalue']
  refine Eq.trans ?_ (hvalue sourceVariable).symm
  rw [valueAfter?, valueAfter?, consulted?_withOutput, lookup_withOutput_of_ne (by decide)]

theorem loadAlike_of_unreadable (hlib : library.Correct home) {file : Path} {override : Bool}
    {e : Failure} (hc : consulted? home w = some (file, override))
    (hf : Dotenv.fileText w.files file = .error e) (directory : Text) :
    LoadAlike library w (w.withOutput directory) ∧ ((load none library).result w).1 = .error e := by
  have hload {w' : World} (he' : w'.environment.lookup environmentVariable = none)
      (hfiles : w'.files = w.files) (hc' : consulted? home w' = some (file, override)) :
      ((load none library).result w').1 = .error e := by
    have hnamed : named.contains (Option.getD (none : Option Text) []) = false := by decide
    rw [consulted?_eq (congrArg (Option.getD · []) he'), hnamed] at hc'
    cases hd : Dotenv.disabled w'.environment with
    | true =>
      rw [hd] at hc'
      cases hc'
    | false =>
      rw [hd] at hc'
      obtain ⟨file', hdefault, hfile⟩ := Option.map_eq_some_iff.mp hc'
      cases hfile
      have hdefaulted := hlib.load_default false w'.files w'.environment
      rw [hdefault] at hdefaulted
      rw [result_load_of_unset he', Dotenv.run, result_ofResult, hdefaulted]
      exact congrArg Loaded.answer (hlib.load_unreadable false hd (hfiles ▸ hf))
  have hfirst := hload he rfl hc
  have hsecond := hload (@unset_withOutput w directory he) rfl (consulted?_withOutput.trans hc)
  exact ⟨.failed (Prod.ext hfirst rfl) (Prod.ext hsecond rfl) rfl, hfirst⟩

theorem lookup_output_of_load (hlib : library.Correct home)
    (h : (load none library).result (w.withOutput directory) = (.ok (), ready)) :
    ready.environment.lookup outputVariable = some directory := by
  rw [result_load_of_unset (unset_withOutput he)] at h
  have hready : ((library.run none false).result (w.withOutput directory)).2 = ready :=
    congrArg Prod.snd h
  rw [← hready]
  exact hlib.lookup_load none w.files
    (Association.lookup_put outputVariable directory w.environment)

end Load

theorem result_call_of_load_error {e : Failure} (hr : request arguments = .run o)
    (h : (load none library).result w = (.error e, ready)) :
    (call arguments library).result w = (.error e, ready) := by
  rw [result_call_of_run hr, result_perform_of_load_error h]
  rfl

section Run
variable (hd : directory ≠ [])
include hd

theorem result_call_of_argument (hf : request flagged = .run { o with outputDir := directory })
    (h : (load none library).result w = (.ok (), ready)) :
    (call flagged library).result w =
      (((serve o (pure (sourceIn o ready)) (Path.ofText directory)).result ready).1.map .finished,
        ((serve o (pure (sourceIn o ready)) (Path.ofText directory)).result ready).2) := by
  obtain ⟨c, rest, rfl⟩ := List.exists_cons_of_ne_nil hd
  rw [result_call_of_run hf, result_perform_of_load h]
  rfl

theorem exists_result_call_of_file {content : Utf8.Bytes}
    (hf : request flagged = .run { o with outputDir := directory })
    (hl : (load none library).result w = (.ok (), ready))
    (h : w.files.entryAt (Path.ofText directory) = some (.file content)) :
    ∃ answer next, (call flagged library).result w = (answer, next) ∧ next.files = w.files ∧
      ((∃ code, answer = .ok (.finished code)) ∨
        ∃ obstacle t, answer = .error (.file obstacle t)) := by
  have hfiles := files_of_load hl
  rw [← hfiles] at h ⊢
  obtain ⟨answer, next, hserve, hsame, hanswer⟩ := serve_of_file o (sourceIn o ready) h
  rw [result_call_of_argument hd hf hl, hserve]
  refine ⟨_, next, rfl, hsame, ?_⟩
  rcases hanswer with ⟨code, rfl⟩ | ⟨obstacle, t, rfl⟩
  · exact .inl ⟨code, rfl⟩
  · exact .inr ⟨obstacle, t, rfl⟩

variable (hlib : library.Correct home) (he : w.environment.lookup environmentVariable = none)
  (ho : o.outputDir = []) (hr : request arguments = .run o)
include hlib he ho hr

theorem result_call_of_variable
    (h : (load none library).result (w.withOutput directory) = (.ok (), ready)) :
    (call arguments library).result (w.withOutput directory) =
      match checkDirectory w.files (Path.ofText directory) with
      | .ok () =>
        (((serve o (pure (sourceIn o ready)) (Path.ofText directory)).result ready).1.map .finished,
          ((serve o (pure (sourceIn o ready)) (Path.ofText directory)).result ready).2)
      | .error e => (.error e, ready) := by
  have hout := lookup_output_of_load he hlib h
  have hoption : outputIn o ready = Path.ofText directory := by
    obtain ⟨c, rest, rfl⟩ := List.exists_cons_of_ne_nil hd
    rw [outputIn, ho, hout]
    rfl
  have hfiles : ready.files = w.files :=
    (files_of_load h : ready.files = (w.withOutput directory).files)
  rw [result_call_of_run hr, result_perform_of_load h, hoption, checkOutput, ho, hfiles]
  simp only [List.isEmpty_nil, if_true]
  cases checkDirectory w.files (Path.ofText directory) <;> rfl

theorem result_call_of_file {content : Utf8.Bytes}
    (hl : (load none library).result (w.withOutput directory) = (.ok (), ready))
    (h : w.files.entryAt (Path.ofText directory) = some (.file content)) :
    (call arguments library).result (w.withOutput directory) =
      (.error (.outputNotDirectory (Path.ofText directory).toText), ready) := by
  rw [result_call_of_variable hd hlib he ho hr hl, checkDirectory_of_file h]

/-- It makes no difference how an output directory is given that is no file. -/
theorem endAlike_of_no_file (hf : request flagged = .run { o with outputDir := directory })
    (hl : LoadAlike library w (w.withOutput directory))
    (h : ((load none library).result w).1 = .ok () →
      ∀ content, w.files.entryAt (Path.ofText directory) ≠ some (.file content)) :
    EndAlike ((call flagged library).result w)
      ((call arguments library).result (w.withOutput directory)) := by
  cases hl with
  | failed hload hload' hkind =>
    have hfiles : World.files _ = (w.withOutput directory).files := files_of_load hload'
    rw [result_call_of_load_error hf hload, result_call_of_load_error hr hload']
    exact ⟨congrArg Except.error hkind, (files_of_load hload).trans hfiles.symm⟩
  | @loaded ready environment hload hload' hsource =>
    have hno := h (congrArg Prod.fst hload)
    have hfiles := files_of_load hload
    rw [result_call_of_argument hd hf hload, result_call_of_variable hd hlib he ho hr hload']
    by_cases ht : w.files.TooLong (Path.ofText directory)
    · obtain ⟨t, next, hserve, hsame⟩ := serve_of_tooLong o (sourceIn o ready) (hfiles ▸ ht)
      rw [checkDirectory_of_tooLong ht, hserve]
      exact ⟨rfl, hsame⟩
    · have hsourceIn : sourceIn o (ready.within environment) = sourceIn o ready :=
        congrArg (preferred o.sourceDir · (workDirectory ready)) hsource
      have hreads := readsNone_serve (readsNone_pure (sourceIn o ready)) o (Path.ofText directory)
      rw [checkDirectory_of_no_file ht hno]
      simp only
      rw [hsourceIn, hreads.same]
      exact ⟨rfl, rfl⟩

end Run

theorem endAlike_of_not_run {w' : World}
    (h : Redirected directory (request arguments) (request flagged))
    (hr : (request arguments).isRun = false) (hw : w.files = w'.files) :
    EndAlike ((call flagged library).result w) ((call arguments library).result w') := by
  rw [call, call]
  generalize request arguments = r at h hr ⊢
  generalize request flagged = r' at h ⊢
  cases h with
  | run o _ => cases hr
  | help => exact ⟨rfl, hw⟩
  | refused e e' => exact ⟨rfl, hw⟩

section Appended
variable (ha : GivesNoOutput arguments)
include ha

theorem request_append_of_run (hr : request arguments = .run o) : o.outputDir = [] ∧
    request (arguments ++ [outputArgument directory]) =
      .run { o with outputDir := attachedValue directory } := by
  have hred := request_append_outputArgument directory ha
  rw [hr] at hred
  exact hred.eq_run

theorem endAlike_of_separator :
    EndAlike ((call (arguments ++ [outputArgument (text "--")]) library).result w)
      ((call arguments library).result w) := by
  cases hr : (request arguments).isRun with
  | false => exact endAlike_of_not_run (request_append_outputArgument _ ha) hr rfl
  | true =>
    obtain ⟨o, ho⟩ := Request.exists_of_isRun hr
    obtain ⟨hempty, hf⟩ := request_append_of_run ha ho
    rw [attachedValue, if_pos rfl, ← hempty] at hf
    rw [result_call_of_run hf, result_call_of_run ho]
    exact ⟨rfl, rfl⟩

variable (hd : directory ≠ []) (hlib : library.Correct home)
  (he : w.environment.lookup environmentVariable = none)
include hd hlib he

theorem result_calls_of_file (hr : (request arguments).isRun) {content : Utf8.Bytes}
    (hc : w.files.entryAt (Path.ofText directory) = some (.file content)) :
    (∀ ready, (load none library).result (w.withOutput directory) = (.ok (), ready) →
      (call arguments library).result (w.withOutput directory) =
        (.error (.outputNotDirectory (Path.ofText directory).toText), ready)) ∧
    (directory ≠ text "--" → ((load none library).result w).1 = .ok () →
      ∃ answer next,
        (call (arguments ++ [outputArgument directory]) library).result w = (answer, next) ∧
        next.files = w.files ∧
        ((∃ code, answer = .ok (.finished code)) ∨
          ∃ obstacle t, answer = .error (.file obstacle t))) := by
  obtain ⟨o, ho⟩ := Request.exists_of_isRun hr
  obtain ⟨hempty, hf⟩ := request_append_of_run ha ho
  refine ⟨fun ready hl => result_call_of_file hd hlib he hempty ho hl hc, fun hne hl => ?_⟩
  rw [attachedValue, if_neg hne] at hf
  exact exists_result_call_of_file hd hf (Prod.ext hl rfl) hc

theorem endAlike_iff (hne : directory ≠ text "--")
    (hl : LoadAlike library w (w.withOutput directory)) :
    EndAlike ((call (arguments ++ [outputArgument directory]) library).result w)
        ((call arguments library).result (w.withOutput directory)) ↔
      ((request arguments).isRun → ((load none library).result w).1 = .ok () →
        ∀ content, w.files.entryAt (Path.ofText directory) ≠ some (.file content)) := by
  constructor
  · intro halike hr hload content hc
    obtain ⟨hvariable, hargument⟩ := result_calls_of_file ha hd hlib he hr hc
    obtain ⟨answer, next, hflagged, _, hanswer⟩ := hargument hne hload
    have hending := halike.ending
    cases hl with
    | failed hfail _ _ => cases hload.symm.trans (congrArg Prod.fst hfail)
    | loaded _ hload' _ =>
      rw [hvariable _ hload', hflagged] at hending
      rcases hanswer with ⟨code, rfl⟩ | ⟨obstacle, t, rfl⟩
      · cases hending
      · cases hending
  · intro hno
    cases hr : (request arguments).isRun with
    | false => exact endAlike_of_not_run (request_append_outputArgument _ ha) hr rfl
    | true =>
      obtain ⟨o, ho⟩ := Request.exists_of_isRun hr
      obtain ⟨hempty, hf⟩ := request_append_of_run ha ho
      rw [attachedValue, if_neg hne] at hf
      exact endAlike_of_no_file hd hlib he hempty ho hf hl (hno hr)

end Appended

/-- An output directory given as the last argument does the same as one given by the variable,
whatever else is asked for and whatever is there, unless it is a file, if only the settings are
loaded alike. They are if there is no default file, or one of simple lines, or one that cannot be
read. A file ends each call that it is given to by the variable. A call that it is given to as an
argument takes no notice, and may end well. Two hyphens alone are no directory when they are
given as an argument. -/
theorem output_directory_exact (hlib : library.Correct home) (hd : directory ≠ [])
    (ha : GivesNoOutput arguments) (he : w.environment.lookup environmentVariable = none) :
    (∀ lines, Consults home w lines →
      LoadAlike library w (w.withOutput directory) ∧ ((load none library).result w).1 = .ok ()) ∧
    (∀ file override e, consulted? home w = some (file, override) →
      Dotenv.fileText w.files file = .error e →
      LoadAlike library w (w.withOutput directory) ∧ ((load none library).result w).1 = .error e) ∧
    (directory ≠ text "--" → LoadAlike library w (w.withOutput directory) →
      (EndAlike ((call (arguments ++ [outputArgument directory]) library).result w)
          ((call arguments library).result (w.withOutput directory)) ↔
        ((request arguments).isRun → ((load none library).result w).1 = .ok () →
          ∀ content, w.files.entryAt (Path.ofText directory) ≠ some (.file content)))) ∧
    ((request arguments).isRun → ∀ content, w.files.entryAt (Path.ofText directory) =
      some (.file content) →
      (∀ ready, (load none library).result (w.withOutput directory) = (.ok (), ready) →
        (call arguments library).result (w.withOutput directory) =
          (.error (.outputNotDirectory (Path.ofText directory).toText), ready)) ∧
      (directory ≠ text "--" → ((load none library).result w).1 = .ok () →
        ∃ answer next,
          (call (arguments ++ [outputArgument directory]) library).result w = (answer, next) ∧
          next.files = w.files ∧
          ((∃ code, answer = .ok (.finished code)) ∨
            ∃ obstacle t, answer = .error (.file obstacle t)))) ∧
    (directory = text "--" →
      EndAlike ((call (arguments ++ [outputArgument directory]) library).result w)
        ((call arguments library).result w)) := by
  refine ⟨fun lines hc => loadAlike_of_consults he hlib hc directory,
    fun file override e hc hf => loadAlike_of_unreadable he hlib hc hf directory,
    endAlike_iff ha hd hlib he,
    fun hr content hc => result_calls_of_file ha hd hlib he hr hc, fun heq => ?_⟩
  rw [heq]
  exact endAlike_of_separator ha

theorem givesNoOutput_of_tokens {ts : List Token} (h : tokens arguments = .ok ts)
    (hts : ∀ isShort attached, .option .outputDir isShort attached ∉ ts) :
    GivesNoOutput arguments := by
  intro others hothers
  cases hothers.symm.trans h
  exact hts

def sectionWorld : World := Generator.withCatalogs "[" Generator.oneSection

theorem output_directory_exact_missing :
    EndAlike
        ((call ([text "--sections"] ++ [outputArgument "out"]) (.standard [])).result sectionWorld)
        ((call [text "--sections"] (.standard [])).result (sectionWorld.withOutput "out")) ∧
      ((call [text "--sections"] (.standard [])).result (sectionWorld.withOutput "out")).1 =
        .ok (.finished 0) := by
  have htokens : tokens [text "--sections"] = .ok [.option .sections false none] :=
    eq_ok_of_toOption (by decide +kernel)
  have hnone : sectionWorld.files.entryAt (Path.ofText "out") = none := by decide +kernel
  have hconsults : Consults [] sectionWorld [] := by
    intro file override hfile
    cases (show consulted? [] sectionWorld = none by decide +kernel).symm.trans hfile
  obtain ⟨hload, _, halike, _⟩ :=
    output_directory_exact (Dotenv.correct_standard []) (show text "out" ≠ [] by decide)
    (givesNoOutput_of_tokens htokens (by simp))
      (rfl : sectionWorld.environment.lookup environmentVariable = none)
  refine ⟨(halike (by decide) (hload [] hconsults).1).mpr fun _ _ content => ?_,
    eq_ok_of_toOption (by decide +kernel)⟩
  rw [hnone]
  nofun

def fileWorld : World := { World.empty with files := ⟨[([text "x"], .file [])], []⟩ }

/-- A file is listed as if it were a directory when an argument names it, and refused when
the variable does. A directory of two hyphens is made when the variable names it, but not
when an argument does. -/
theorem output_directory_unnoticed :
    (GivesNoOutput [text "--list"] ∧
      ((call ([text "--list"] ++ [outputArgument "x"]) (.standard [])).result fileWorld).1 =
        .ok (.finished 0) ∧
      ((call [text "--list"] (.standard [])).result (fileWorld.withOutput "x")).1 =
        .error (.outputNotDirectory "x")) ∧
    (GivesNoOutput [text "--sections"] ∧
      ((call ([text "--sections"] ++ [outputArgument "--"]) (.standard [])).result
        fileWorld).2.files.get? [text "--"] = none ∧
      ((call [text "--sections"] (.standard [])).result (fileWorld.withOutput "--")).2.files.get?
        [text "--"] = some .directory) := by
  have hlist : tokens [text "--list"] = .ok [.option .list false none] :=
    eq_ok_of_toOption (by decide +kernel)
  have hsections : tokens [text "--sections"] = .ok [.option .sections false none] :=
    eq_ok_of_toOption (by decide +kernel)
  have hrun : request [text "--list"] = .run { Options.none with list := true } := by decide +kernel
  have hfile : fileWorld.files.entryAt (Path.ofText "x") = some (.file []) := by decide +kernel
  have hload : ((load none (.standard [])).result (fileWorld.withOutput "x")).1 = .ok () :=
    eq_ok_of_toOption (by decide +kernel)
  have hrefused := result_call_of_file (show text "x" ≠ [] by decide)
    (Dotenv.correct_standard []) rfl rfl hrun (Prod.ext hload rfl) hfile
  refine ⟨⟨givesNoOutput_of_tokens hlist (by simp), eq_ok_of_toOption (by decide +kernel), ?_⟩,
    givesNoOutput_of_tokens hsections (by simp), by decide +kernel, by decide +kernel⟩
  rw [hrefused]
  exact congrArg (Except.error ∘ Failure.outputNotDirectory) (by decide +kernel)

end CommandLine
end CatalogTypes
