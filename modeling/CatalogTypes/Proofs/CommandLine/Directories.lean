import CatalogTypes.Proofs.Generation.Environment
import CatalogTypes.Proofs.Settings.Loading
import CatalogTypes.Proofs.Status.Answers

/-! # Where the directories come from

A call first loads its settings and then takes each of its two directories from an argument, from
the variable as it is by then, or from the working directory, whichever comes first and is not
empty. Once both are known, no variable is read any more.
-/
namespace CatalogTypes

/-- What depends on the files alone reads no variable. -/
theorem Run.Tells.readsNone {α : Type} {run : Run α} (h : Tells run) : ReadsNone run := by
  constructor
  · intro w
    obtain ⟨answer, entries, htold⟩ := h w.files
    rw [htold w rfl]
    rfl
  · intro w environment
    obtain ⟨answer, entries, htold⟩ := h w.files
    rw [htold w rfl, htold (w.within environment) rfl]
    rfl

namespace CommandLine
open EnvFile FileTree Run Settings
variable {library : Dotenv} {home : Location} {o : Options} {source : Run Path} {output : Path}
  {w : World} {arguments : List Text} {lines : List Line}

/-- What an argument gives, or else the value of a variable, or else a default. An empty
text gives nothing. -/
def preferred (argument : Text) (value : Option Text) (default : Path) : Path :=
  match argument, value with
  | c :: rest, _ => Path.ofText (c :: rest)
  | [], some (c :: rest) => Path.ofText (c :: rest)
  | [], _ => default

def sourceIn (o : Options) (w : World) : Path :=
  preferred o.sourceDir (w.environment.lookup sourceVariable) (workDirectory w)

def outputIn (o : Options) (w : World) : Path :=
  preferred o.outputDir (w.environment.lookup outputVariable) (defaultOutput w)

/-- Refuses a directory that is a file, or that cannot be asked for. -/
def checkDirectory (files : FileTree) (p : Path) : Except Failure Unit := do
  if (← files.exists? p) && !(← files.isDirectory? p) then throw (.outputNotDirectory p.toText)

/-- The output directory is checked unless it is given by an argument. -/
def checkOutput (o : Options) (files : FileTree) (output : Path) : Except Failure Unit :=
  if o.outputDir.isEmpty then checkDirectory files output else .ok ()

theorem readsNone_serve (h : ReadsNone source) (o : Options) (output : Path) :
    ReadsNone (serve o source output) := by
  unfold serve
  split
  · exact (Status.tells_available output).readsNone.bind fun _ => readsNone_pure _
  · split
    · exact (Status.tells_complete output).readsNone.bind fun _ => readsNone_pure _
    · refine (readsNone_generate h o output).bind fun success => ?_
      cases success with
      | true => exact (readsNone_note _ _).bind fun _ => readsNone_pure _
      | false => exact (readsNone_note _ _).bind fun _ => readsNone_pure _

theorem result_serve_congr {other : Run Path} (h : source.result w = other.result w) (o : Options)
    (output : Path) :
    (serve o source output).result w = (serve o other output).result w := by
  have hgenerate : (generate o source output).result w = (generate o other output).result w := by
    rw [generate, generate, result_bind, result_bind, h]
  unfold serve
  split
  · rfl
  · split
    · rfl
    · rw [result_bind, hgenerate, result_bind]

theorem preferred_setting? (w : World) (name : Text) (default : Path) :
    ((setting? w name).map Path.ofText).getD default =
      preferred [] (w.environment.lookup name) default := by
  rw [setting?]
  cases w.environment.lookup name with
  | none => rfl
  | some value => cases value <;> rfl

theorem result_sourceDirectory (o : Options) (w : World) :
    (sourceDirectory o).result w = (.ok (sourceIn o w), w) := by
  rw [sourceDirectory, sourceIn]
  cases o.sourceDir with
  | nil =>
    rw [← preferred_setting?]
    rfl
  | cons c rest => rfl

theorem outputDirectory_eq (w : World) :
    Settings.outputDirectory w =
      (checkDirectory w.files
        (preferred [] (w.environment.lookup outputVariable) (defaultOutput w))).map
        fun _ => preferred [] (w.environment.lookup outputVariable) (defaultOutput w) := by
  rw [Settings.outputDirectory, preferred_setting?, checkDirectory]
  generalize preferred [] (w.environment.lookup outputVariable) (defaultOutput w) = p
  cases w.files.exists? p with
  | error e => rfl
  | ok found =>
    cases w.files.isDirectory? p with
    | error e => cases found <;> rfl
    | ok isDirectory => cases found <;> cases isDirectory <;> rfl

theorem result_outputDirectory (o : Options) (w : World) :
    (outputDirectory o).result w = ((checkOutput o w.files (outputIn o w)).map fun _ =>
      outputIn o w, w) := by
  rw [outputDirectory, outputIn, checkOutput]
  cases o.outputDir with
  | nil => exact congrArg (·, w) (outputDirectory_eq w)
  | cons c rest => rfl

theorem result_perform_of_load {ready : World}
    (h : (Settings.load none library).result w = (.ok (), ready)) :
    (perform o library).result w =
      match checkOutput o ready.files (outputIn o ready) with
      | .ok () => (serve o (pure (sourceIn o ready)) (outputIn o ready)).result ready
      | .error e => (.error e, ready) := by
  rw [perform, result_bind, h]
  simp only
  rw [result_bind, result_outputDirectory]
  cases checkOutput o ready.files (outputIn o ready) with
  | error e => rfl
  | ok _ => exact result_serve_congr (result_sourceDirectory o ready) o _

theorem result_perform_of_load_error {e : Failure} {next : World}
    (h : (Settings.load none library).result w = (.error e, next)) :
    (perform o library).result w = (.error e, next) := by
  rw [perform, result_bind, h]

theorem result_call_of_run (h : request arguments = .run o) (library : Dotenv) (w : World) :
    (call arguments library).result w =
      (((perform o library).result w).1.map .finished, ((perform o library).result w).2) := by
  rw [call, h]
  simp only
  rw [result_bind]
  rcases (perform o library).result w with ⟨answer, next⟩
  cases answer <;> rfl

/-- A call first settles its variables: the file of the environment that they name overrides them,
and in any other environment the default file adds to them. No other file is looked at. Then it
takes its directories from its arguments, or else from the variables as they are now, or else from
the working directory, and goes on with these two and no variable. -/
theorem directories_resolved (hlib : library.Correct home) (hr : request arguments = .run o)
    (hc : Consults home w lines) :
    ∃ ready, (Settings.load none library).result w = (.ok (), ready) ∧ ready.files = w.files ∧
      (∀ name, ready.environment.lookup name = valueAfter? home w lines name) ∧
      (call arguments library).result w =
        (match checkOutput o w.files (outputIn o ready) with
        | .ok () =>
          (((serve o (pure (sourceIn o ready)) (outputIn o ready)).result ready).1.map .finished,
            ((serve o (pure (sourceIn o ready)) (outputIn o ready)).result ready).2)
        | .error e => (.error e, ready)) ∧
      ((call arguments library).result w).2.environment = ready.environment ∧
      ∀ source output, ReadsNone (serve o (pure source) output) := by
  obtain ⟨environment, log, hload, hvalue⟩ := result_load hlib hc
  have hperform := @result_perform_of_load library o w _ hload
  refine ⟨_, hload, rfl, hvalue, ?_, ?_, fun source output =>
    readsNone_serve (readsNone_pure source) o output⟩
  · rw [result_call_of_run hr, hperform]
    cases checkOutput o w.files (outputIn o { w with environment := environment, log := log }) <;>
      rfl
  · rw [result_call_of_run hr, hperform]
    cases checkOutput o w.files (outputIn o { w with environment := environment, log := log }) with
    | error e => rfl
    | ok _ => exact (readsNone_serve (readsNone_pure _) o _).keeps _

def assignmentLine (exported : Option Text) (name before behind : Text) (style : Style)
    (value gap : Text) (remark : Option Text) : Line :=
  ⟨[], some ⟨exported, name, before, behind, style, value⟩, gap, remark⟩

def devLines : List Line :=
  [⟨[], none, [], some " settings"⟩,
    assignmentLine none sourceVariable [] [] .plain "first" [] none,
    ⟨" ", none, [], none⟩,
    assignmentLine (some " ") sourceVariable " " " " .double "cms" " " (some " last"),
    assignmentLine none outputVariable [] [] .plain [] [] none]

example : Text.lines (devLines.map Line.text) =
    text "# settings\nCMS_TYPES_SOURCE_DIR=first\n \n" ++
      text "export CMS_TYPES_SOURCE_DIR = \"cms\" # last\nCMS_TYPES_OUTPUT_DIR=" := by
  decide +kernel

/-- A working directory with this file and another one that is no text. -/
def devWorld : World where
  files := ⟨[([text ".env.dev"], .file (bytesOf (Text.lines (devLines.map Line.text)))),
    ([text ".env.prod"], .file [0xFF])], []⟩
  memory := .empty []
  environment :=
    [(environmentVariable, "dev"), (sourceVariable, "/previous"), (outputVariable, "/old"),
      (text "HOME", text "/h")]
  log := []
  warnings := []

theorem directories_resolved_dev :
    ∃ ready, (Settings.load none (.standard [])).result devWorld = (.ok (), ready) ∧
    ready.environment.lookup sourceVariable = some (text "cms") ∧
    ready.environment.lookup outputVariable = some [] ∧
    ready.environment.lookup (text "HOME") = some (text "/h") ∧
    request [text "--sections"] = .run { Options.none with sections := true } ∧
    sourceIn { Options.none with sections := true } ready = Path.ofText "cms" ∧
    outputIn { Options.none with sections := true } ready = ⟨.root, ["node_modules"]⟩ ∧
    ((call [text "--sections"] (.standard [])).result devWorld).2.environment =
      ready.environment := by
  have hrequest : request [text "--sections"] = .run { Options.none with sections := true } := by
    decide +kernel
  have hconsulted : consulted? [] devWorld = some (filePath "dev", true) := by decide +kernel
  have hholds : Consults [] devWorld devLines := by
    intro file override hfile
    cases hconsulted.symm.trans hfile
    exact ⟨by decide +kernel, eq_ok_of_toOption (by decide +kernel)⟩
  obtain ⟨ready, hload, hfiles, hvalue, _, henvironment, _⟩ :=
    directories_resolved (Dotenv.correct_standard []) hrequest hholds
  have hsource : ready.environment.lookup sourceVariable = some (text "cms") := by
    rw [hvalue]
    decide +kernel
  have houtput : ready.environment.lookup outputVariable = some [] := by
    rw [hvalue]
    decide +kernel
  have hhome : ready.environment.lookup (text "HOME") = some (text "/h") := by
    rw [hvalue]
    decide +kernel
  refine ⟨ready, hload, hsource, houtput, hhome, hrequest, ?_, ?_, henvironment⟩
  · rw [sourceIn, hsource]
    rfl
  · rw [outputIn, houtput, defaultOutput, Settings.workDirectory, hfiles]
    rfl

def worldWith (file content : Text) (environment : Environment) : World :=
  { World.empty with files := ⟨[([file], .file (bytesOf content))], []⟩, environment }

/-- A default file sets a variable though no environment is named, and the file of a named
environment sets none when the library is turned off. -/
theorem variables_not_as_named :
    (request [text "--status"] = .run { Options.none with status := true } ∧
      (worldWith ".env" "CMS_TYPES_OUTPUT_DIR=/e" []).environment.lookup environmentVariable =
        none ∧
      ((call [text "--status"] (.standard [])).result
        (worldWith ".env" "CMS_TYPES_OUTPUT_DIR=/e" [])).2.environment.lookup outputVariable =
          some (text "/e")) ∧
    ((call [text "--status"] (.standard [])).result (worldWith ".env.dev" "CMS_TYPES_OUTPUT_DIR=/e"
      [(environmentVariable, "dev"), (Dotenv.disablingVariable, "TRUE")])).2.environment.lookup
        outputVariable = none := by
  refine ⟨⟨by decide +kernel, rfl, ?_⟩, ?_⟩
  · decide +kernel
  · decide +kernel

end CommandLine
end CatalogTypes
