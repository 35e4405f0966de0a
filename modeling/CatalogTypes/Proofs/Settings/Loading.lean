import Mathlib.Data.List.Induction
import Mathlib.Data.List.Nodup
import CatalogTypes.Proofs.Files.Asking
import CatalogTypes.Proofs.Generation.Environment
import CatalogTypes.Proofs.Settings.Lines

/-! # Loading settings

The file of the environment that is named gives each variable that it assigns the last of its
values. In an environment without a file of its own the default file does so, but only for variables
that are not set. All others are left as they are, and no other file is looked at.
-/
namespace CatalogTypes

namespace EnvFile
open Text

def lastValue (assigned : List (Text × Text)) (name : Text) : Option Text :=
  assigned.reverse.lookup name

def collected (assigned : List (Text × Text)) : List (Text × Option Text) :=
  assigned.foldl (fun bound a => Association.put a.1 (some a.2) bound) []

section Resolving
variable {assigned : List (Text × Text)} {value name : Text}

theorem reference?_eq_none {c : CodePoint} (h : Apart (· = '$') (· = '\x7b') (c :: value)) :
    reference? (c :: value) = none := by
  have hopening : after? opening (c :: value) = none := by
    rw [opening, after?]
    split
    next hc =>
      cases value with
      | nil => rfl
      | cons d value =>
        rw [after?, if_neg]
        intro hd
        exact (List.isChain_cons_cons.mp h).1 ⟨decide_eq_true hc.symm, decide_eq_true hd.symm⟩
    · rfl
  rw [reference?, hopening]
  rfl

theorem expandFrom_eq_self (h : Apart (· = '$') (· = '\x7b') value) (meaning : Text → Option Text) :
    expandFrom meaning 0 value = value := by
  induction value with
  | nil => rfl
  | cons c value ih => rw [expandFrom, reference?_eq_none h, ih h.tail]

theorem resolve_eq_collected (h : ∀ a ∈ assigned, Apart (· = '$') (· = '\x7b') a.2)
    (override : Bool) (environment : Environment) :
    resolve override environment (assigned.map fun (name, value) => ⟨name, some value⟩) =
      collected assigned := by
  rw [resolve, collected, List.foldl_map]
  refine List.foldl_ext _ _ _ fun bound a ha => ?_
  rw [Option.map_some, expandFrom_eq_self (h a ha)]

theorem collected_concat (assigned : List (Text × Text)) (a : Text × Text) :
    collected (assigned ++ [a]) = Association.put a.1 (some a.2) (collected assigned) := by
  rw [collected, List.foldl_append]
  rfl

theorem lookup_collected (assigned : List (Text × Text)) (name : Text) :
    (collected assigned).lookup name = (lastValue assigned name).map some := by
  induction assigned using List.reverseRecOn with
  | nil => rfl
  | append_singleton assigned a ih =>
    rw [collected_concat, lastValue, List.reverse_append, List.reverse_singleton,
      List.singleton_append, List.lookup_cons]
    by_cases hn : name = a.1
    · rw [hn, Association.lookup_put, beq_self_eq_true]
      rfl
    · rw [Association.lookup_put_of_ne hn, ih, beq_false_of_ne hn]
      rfl

theorem nodup_collected (assigned : List (Text × Text)) :
    ((collected assigned).map Prod.fst).Nodup := by
  induction assigned using List.reverseRecOn with
  | nil => exact List.nodup_nil
  | append_singleton assigned a ih =>
    rw [collected_concat]
    exact Association.nodup_put ih

theorem of_mem_collected {e : Text × Option Text} (h : e ∈ collected assigned) :
    ∃ a ∈ assigned, e = (a.1, some a.2) := by
  induction assigned using List.reverseRecOn with
  | nil => cases h
  | append_singleton assigned a ih =>
    rw [collected_concat] at h
    rcases Association.of_mem_put h with rfl | h
    · exact ⟨a, List.mem_append_right _ List.mem_cons_self, rfl⟩
    · obtain ⟨a', ha', he⟩ := ih h
      exact ⟨a', List.mem_append_left _ ha', he⟩

end Resolving

section Assigning
variable {entries : List (Text × Option Text)} {name value : Text}

def Holdable (name value : Text) : Prop := 0 ∉ name ∧ ('=' : CodePoint) ∉ name ∧ 0 ∉ value

theorem assign_eq_ok (h : Holdable name value) (environment : Environment) :
    assign name value environment = .ok (Association.put name value environment) := by
  obtain ⟨hn, he, hv⟩ := h
  simp [assign, hn, he, hv]

theorem eq_put_of_assign {environment assigned : Environment}
    (h : assign name value environment = .ok assigned) :
    assigned = Association.put name value environment := by
  unfold assign at h
  split at h
  · cases h
  · split at h
    · cases h
    · exact (Except.ok.inj h).symm

/-- What is not overridden is kept, whatever else is assigned or refused. -/
theorem lookup_assignEach {environment : Environment} {held : Text}
    (h : environment.lookup name = some held) :
    (assignEach false entries environment).2.lookup name = some held := by
  fun_induction assignEach false entries environment with
  | case1 environment => exact h
  | case2 other rest environment ih => exact ih h
  | case3 other value rest environment hset ih => exact ih h
  | case4 other value rest environment hfree assigned ha ih =>
    have hne : name ≠ other := by
      rintro rfl
      exact hfree (by rw [h]; rfl)
    refine ih ?_
    rw [eq_put_of_assign ha, Association.lookup_put_of_ne hne, h]
  | case5 other value rest environment hfree e he => exact h

section Settling
variable {override : Bool}

theorem settle_none (held : Option Text) : settle override none held = held := by
  cases override <;> simp [settle]

theorem settle_cons {value : Option Text} {before after : Environment}
    (hfresh : entries.lookup name = none)
    (hname : after.lookup name = settle override value (before.lookup name))
    (hother : ∀ other, other ≠ name → after.lookup other = before.lookup other) (other : Text) :
    settle override (entries.lookup other).join (after.lookup other) =
      settle override (((name, value) :: entries).lookup other).join (before.lookup other) := by
  rw [List.lookup_cons]
  by_cases ho : other = name
  · rw [ho, hfresh, beq_self_eq_true, Option.join_none, settle_none, hname]
    rfl
  · rw [beq_false_of_ne ho, hother other ho]

end Settling

/-- Values that an environment can hold are all settled, if no name has two of them. -/
theorem assignEach_spec (override : Bool) (hh : ∀ e ∈ entries, ∀ value ∈ e.2, Holdable e.1 value)
    (hn : (entries.map Prod.fst).Nodup) (environment : Environment) :
    (assignEach override entries environment).1 = .ok () ∧
      ∀ name, (assignEach override entries environment).2.lookup name =
        settle override (entries.lookup name).join (environment.lookup name) := by
  induction entries generalizing environment with
  | nil => exact ⟨rfl, fun name => (settle_none _).symm⟩
  | cons e entries ih =>
    obtain ⟨name, value⟩ := e
    obtain ⟨hhead, htail⟩ := List.forall_mem_cons.mp hh
    obtain ⟨hnew, hrest⟩ := List.nodup_cons.mp hn
    have hfresh : entries.lookup name = none := by
      refine List.lookup_eq_none_iff.mpr fun e he => ?_
      have hmem : e.1 ∈ entries.map Prod.fst := List.mem_map_of_mem he
      have hne : name ≠ e.1 := fun heq => hnew (heq ▸ hmem)
      simpa using hne
    cases value with
    | none =>
      obtain ⟨hok, hlookup⟩ := ih htail hrest environment
      refine ⟨hok, fun other => (hlookup other).trans ?_⟩
      exact settle_cons hfresh (settle_none _).symm (fun _ _ => rfl) other
    | some value =>
      rw [assignEach]
      split
      next hset =>
        obtain ⟨rfl, hheld⟩ : override = false ∧ (environment.lookup name).isSome := by
          simpa using hset
        obtain ⟨held, hheld⟩ := Option.isSome_iff_exists.mp hheld
        obtain ⟨hok, hlookup⟩ := ih htail hrest environment
        have hkept : environment.lookup name =
            settle false (some value) (environment.lookup name) := by
          rw [hheld]
          rfl
        refine ⟨hok, fun other => (hlookup other).trans ?_⟩
        exact settle_cons hfresh hkept (fun _ _ => rfl) other
      next hfree =>
        obtain ⟨hok, hlookup⟩ := ih htail hrest (Association.put name value environment)
        have hgiven : (Association.put name value environment).lookup name =
            settle override (some value) (environment.lookup name) := by
          rw [Association.lookup_put]
          cases override with
          | true => rfl
          | false =>
            cases hheld : environment.lookup name with
            | none => rfl
            | some held => exact absurd (by rw [hheld]; rfl) hfree
        rw [assign_eq_ok (hhead value rfl)]
        refine ⟨hok, fun other => (hlookup other).trans ?_⟩
        exact settle_cons hfresh hgiven (fun _ ho => Association.lookup_put_of_ne ho _ _) other

end Assigning

section Simple
variable {lines : List Line}

theorem Assignment.Simple.holdable {a : Assignment} {gap : Text} {remark : Option Text}
    (h : a.Simple gap remark) :
    Holdable a.name a.value := by
  refine ⟨fun hm => ?_, fun hm => ?_, h.noNull⟩
  · exact absurd (h.name 0 hm) (by decide)
  · exact absurd (h.name '=' hm) (by decide)

theorem exists_of_mem_assignments {a : Text × Text} (h : a ∈ assignments lines) :
    ∃ l ∈ lines, ∃ b ∈ l.assignment, a = (b.name, b.value) := by
  obtain ⟨l, hl, he⟩ := List.mem_filterMap.mp h
  obtain ⟨b, hb, hab⟩ := Option.map_eq_some_iff.mp he
  exact ⟨l, hl, b, hb, hab.symm⟩

/-- A simple file settles each of its names with the last value, and nothing else. -/
theorem assignAll_lines (hl : ∀ l ∈ lines, l.Simple) (override : Bool) (environment : Environment) :
    ∃ assigned,
      assignAll override (bindings (statements (Text.lines (lines.map Line.text)))) environment =
        (.ok (), assigned) ∧
      ∀ name, assigned.lookup name = settle override (lastValue (assignments lines) name)
        (environment.lookup name) := by
  have hrefers : ∀ a ∈ assignments lines, Apart (· = '$') (· = '\x7b') a.2 := by
    intro a ha
    obtain ⟨l, hm, b, hb, rfl⟩ := exists_of_mem_assignments ha
    exact ((hl l hm).assignment b hb).refersToNone
  have hholdable : ∀ e ∈ collected (assignments lines), ∀ value ∈ e.2, Holdable e.1 value := by
    intro e he
    obtain ⟨a, ha, rfl⟩ := of_mem_collected he
    obtain ⟨l, hm, b, hb, rfl⟩ := exists_of_mem_assignments ha
    rintro value ⟨⟩
    exact ((hl l hm).assignment b hb).holdable
  obtain ⟨hok, hlookup⟩ := assignEach_spec override hholdable (nodup_collected _) environment
  rw [bindings_lines hl, assignAll, resolve_eq_collected hrefers]
  refine ⟨_, Prod.ext hok rfl, fun name => ?_⟩
  rw [hlookup, lookup_collected]
  cases lastValue (assignments lines) name <;> rfl

end Simple
end EnvFile

namespace Dotenv
open EnvFile

/-- The text in the place of an environment file is that of simple lines. -/
def Holds (files : FileTree) (file : Path) (lines : List Line) : Prop :=
  (∀ l ∈ lines, l.Simple) ∧ fileText files file = .ok (Text.lines (lines.map Line.text))

/-- What the documentation of the library says: it can be turned off, it looks for a default
file from a directory upward, a file that cannot be read is a failure, a file of simple lines
gives each name the last of its values, and the variables that are set are kept unless they are
to be overridden. -/
structure Correct (home : Location) (library : Dotenv) : Prop where
  load_disabled {file? : Option Path} {override : Bool} {files : FileTree}
    {environment : Environment} (h : disabled environment) :
      library.load file? override files environment = .nothing environment
  load_default (override : Bool) (files : FileTree) (environment : Environment) :
    library.load none override files environment =
      (default? home files).elim (.nothing environment) fun file =>
        library.load (some file) override files environment
  load_simple {file : Path} {files : FileTree} {lines : List Line} {environment : Environment}
    (override : Bool) (hd : disabled environment = false) (h : Holds files file lines) :
    ∃ assigned, library.load (some file) override files environment = ⟨.ok (), assigned, []⟩ ∧
      ∀ name, assigned.lookup name = settle override (lastValue (assignments lines) name)
        (environment.lookup name)
  load_unreadable {file : Path} {files : FileTree} {environment : Environment} {e : Failure}
    (override : Bool) (hd : disabled environment = false) (h : fileText files file = .error e) :
    library.load (some file) override files environment = ⟨.error e, environment, []⟩
  lookup_load {environment : Environment} {name value : Text} (file? : Option Path)
    (files : FileTree) (h : environment.lookup name = some value) :
    (library.load file? false files environment).environment.lookup name = some value

theorem lookup_loadFile {environment : Environment} {name value : Text} (file : Path)
    (files : FileTree) (h : environment.lookup name = some value) :
    (loadFile file false files environment).environment.lookup name = some value := by
  unfold loadFile
  split
  · exact h
  · exact lookup_assignEach h

theorem correct_standard (home : Location) : Correct home (standard home) where
  load_disabled h := if_pos h
  load_default override files environment := by
    simp only [standard, Option.none_or, Option.some_or]
    cases disabled environment <;> cases default? home files <;> rfl
  load_simple {file files lines environment} override hd h := by
    obtain ⟨hl, ht⟩ := h
    obtain ⟨assigned, hassigned, hlookup⟩ := assignAll_lines hl override environment
    refine ⟨assigned, ?_, hlookup⟩
    simp only [standard, hd, Option.some_or, loadFile, ht, hassigned, complaints_lines hl]
    rfl
  load_unreadable override hd h := by
    simp only [standard, hd, Option.some_or, loadFile, h]
    rfl
  lookup_load {environment name value} file? files h := by
    simp only [standard]
    split
    · exact h
    · split
      · exact lookup_loadFile _ files h
      · exact h

end Dotenv

namespace Settings
open EnvFile FileTree Run
variable {library : Dotenv} {home : Location} {w : World} {lines : List Line}

def filePath (environment : Text) : Path := Path.ofText (fileName environment)

/-- The file that is consulted, if there is one, and whether it overrides the variables that are
set. -/
def consulted? (home : Location) (w : World) : Option (Path × Bool) :=
  let environment := (w.environment.lookup environmentVariable).getD []
  if Dotenv.disabled w.environment then none
  else if named.contains environment then
    if isThere w.files (filePath environment) then some (filePath environment, true) else none
  else (Dotenv.default? home w.files).map (·, false)

/-- The file that is consulted holds certain simple lines. -/
def Consults (home : Location) (w : World) (lines : List Line) : Prop :=
  ∀ file override, consulted? home w = some (file, override) → Dotenv.Holds w.files file lines

/-- What a variable is once the file that is consulted has been loaded. -/
def valueAfter? (home : Location) (w : World) (lines : List Line) (name : Text) : Option Text :=
  match consulted? home w with
  | some (_, override) =>
    settle override (lastValue (assignments lines) name) (w.environment.lookup name)
  | none => w.environment.lookup name

theorem result_run_of_load {file? : Option Path} {override : Bool} {assigned : Environment}
    (h : library.load file? override w.files w.environment = ⟨.ok (), assigned, []⟩) :
    (library.run file? override).result w = (.ok (), w.within assigned) := by
  simp only [Dotenv.run, result_ofResult, h, List.append_nil, World.within]

theorem consulted?_eq {e : Text} (he : (w.environment.lookup environmentVariable).getD [] = e) :
    consulted? home w =
      if Dotenv.disabled w.environment then none
      else if named.contains e then
        if isThere w.files (filePath e) then some (filePath e, true) else none
      else (Dotenv.default? home w.files).map (·, false) := by
  subst he
  rfl

section Consulting
variable (hlib : library.Correct home) (hc : Consults home w lines)
include hlib hc

omit hc in
theorem exists_result_run_disabled (hd : Dotenv.disabled w.environment) (file? : Option Path)
    (override : Bool) :
    ∃ environment, (library.run file? override).result w = (.ok (), w.within environment) ∧
      ∀ name, environment.lookup name = valueAfter? home w lines name := by
  refine ⟨_, result_run_of_load (hlib.load_disabled hd), fun name => ?_⟩
  simp [valueAfter?, consulted?, hd]

theorem exists_result_run_named {e : Text}
    (he : (w.environment.lookup environmentVariable).getD [] = e) (hn : named.contains e)
    (ht : isThere w.files (filePath e)) :
    ∃ environment, (library.run (some (filePath e)) true).result w =
      (.ok (), w.within environment) ∧
      ∀ name, environment.lookup name = valueAfter? home w lines name := by
  cases hd : Dotenv.disabled w.environment with
  | true => exact exists_result_run_disabled hlib hd _ _
  | false =>
    have hconsulted : consulted? home w = some (filePath e, true) := by
      rw [consulted?_eq he, hd, if_neg Bool.false_ne_true, if_pos hn, if_pos ht]
    obtain ⟨assigned, hload, hlookup⟩ := hlib.load_simple true hd (hc _ _ hconsulted)
    refine ⟨assigned, result_run_of_load hload, fun name => ?_⟩
    rw [hlookup, valueAfter?, hconsulted]

theorem exists_result_run_default {e : Text}
    (he : (w.environment.lookup environmentVariable).getD [] = e) (hn : named.contains e = false) :
    ∃ environment, (library.run none false).result w = (.ok (), w.within environment) ∧
      ∀ name, environment.lookup name = valueAfter? home w lines name := by
  cases hd : Dotenv.disabled w.environment with
  | true => exact exists_result_run_disabled hlib hd _ _
  | false =>
    have hconsulted : consulted? home w = (Dotenv.default? home w.files).map (·, false) := by
      rw [consulted?_eq he, hd, hn]
      rfl
    have hdefault := hlib.load_default false w.files w.environment
    cases hf : Dotenv.default? home w.files with
    | none =>
      rw [hf] at hdefault hconsulted
      refine ⟨_, result_run_of_load hdefault, fun name => ?_⟩
      rw [valueAfter?, hconsulted]
      rfl
    | some file =>
      rw [hf] at hdefault hconsulted
      obtain ⟨assigned, hload, hlookup⟩ := hlib.load_simple false hd (hc _ _ hconsulted)
      refine ⟨assigned, result_run_of_load (hdefault.trans hload), fun name => ?_⟩
      rw [hlookup, valueAfter?, hconsulted]
      rfl

/-- Loading settles every variable with the file that is consulted, and looks at no other file. -/
theorem result_load :
    ∃ environment log, (load none library).result w =
      (.ok (), { w with environment := environment, log := log }) ∧
      ∀ name, environment.lookup name = valueAfter? home w lines name := by
  obtain ⟨e, he⟩ : ∃ e, (w.environment.lookup environmentVariable).getD [] = e := ⟨_, rfl⟩
  have hload : (load none library).result w =
      (if named.contains e then
        if isThere w.files (filePath e) then
          library.run (some (filePath e)) true >>= fun _ =>
            info ("Loaded environment config: " ++ fileName e)
        else note .warning ("Environment config file not found: " ++ fileName e)
      else library.run none false >>= fun _ =>
        if !e.isEmpty then note .warning ("Unknown environment '" ++ e ++ "', loaded default .env")
        else pure ()).result w := by
    rw [load, result_bind, ← he]
    rfl
  rw [hload]
  cases hn : named.contains e with
  | true =>
    rw [if_pos rfl]
    cases ht : isThere w.files (filePath e) with
    | true =>
      obtain ⟨environment, hrun, hvalue⟩ := exists_result_run_named hlib hc he hn ht
      rw [if_pos rfl, result_bind, hrun]
      exact ⟨environment, _, rfl, hvalue⟩
    | false =>
      rw [if_neg Bool.false_ne_true]
      refine ⟨w.environment, _, rfl, fun name => ?_⟩
      have hconsulted : consulted? home w = none := by
        rw [consulted?_eq he, hn, ht]
        exact ite_self _
      rw [valueAfter?, hconsulted]
  | false =>
    obtain ⟨environment, hrun, hvalue⟩ := exists_result_run_default hlib hc he hn
    rw [if_neg Bool.false_ne_true, result_bind, hrun]
    cases e.isEmpty with
    | true => exact ⟨environment, _, rfl, hvalue⟩
    | false => exact ⟨environment, _, rfl, hvalue⟩

end Consulting
end Settings
end CatalogTypes
