import CatalogTypes.Settings.Assignment

/-! # Loading environment files

A library loads the environment files. It may be any function of the files and the variables. The
one that is defined here does what the library is known to do: a variable can turn it off, a path
that leads to no file counts as an empty file, and the default file is the first one of its name on
the way from a directory up to the root.
-/
namespace CatalogTypes

/-- What loading a file comes to. -/
structure Loaded where
  answer : Except Failure Unit
  environment : Environment
  warnings : List Text

def Loaded.nothing (environment : Environment) : Loaded := ⟨.ok (), environment, []⟩

/-- A library that loads a file, or else the default file, and overrides variables or does not. -/
structure Dotenv where
  load (file? : Option Path) (override : Bool) (files : FileTree)
    (environment : Environment) : Loaded

namespace Dotenv

def disablingVariable : Text := "PYTHON_DOTENV_DISABLED"

def affirmations : List Text := ["1", "true", "t", "yes", "y"]

/-- A small letter for a capital one, and an s for the long s: no other code point is one of the
letters `a` to `z` but for its case, the sign of the kelvin apart. -/
def foldCase (c : CodePoint) : CodePoint :=
  if 0x41 ≤ c.val && c.val ≤ 0x5A then Fin.ofNat 0x110000 (c.val + 0x20)
  else if c.val = 0x17F then 's'
  else if c.val = 0x212A then 'k'
  else c

def disabled (environment : Environment) : Bool :=
  match environment.lookup disablingVariable with
  | some answer => affirmations.contains (answer.map foldCase)
  | none => false

def isFile (files : FileTree) (p : Path) : Bool :=
  match files.entry? p with
  | .ok (some (.file _)) => true
  | _ => false

def fileText (files : FileTree) (p : Path) : Except Failure Text :=
  if isFile files p then files.readText p else .ok []

def candidates (home : Location) : List Path :=
  (List.range (home.length + 1)).reverse.map fun n => ⟨.root, home.take n ++ [text ".env"]⟩

def default? (home : Location) (files : FileTree) : Option Path :=
  (candidates home).find? (isFile files)

def loadFile (file : Path) (override : Bool) (files : FileTree)
    (environment : Environment) : Loaded :=
  match fileText files file with
  | .error e => ⟨.error e, environment, []⟩
  | .ok content =>
    let statements := EnvFile.statements content
    let (answer, assigned) := EnvFile.assignAll override (EnvFile.bindings statements) environment
    ⟨answer, assigned, EnvFile.complaints statements⟩

/-- The library as it is known, called from a directory. -/
def standard (home : Location) : Dotenv where
  load file? override files environment :=
    if disabled environment then .nothing environment
    else match file?.or (default? home files) with
      | some file => loadFile file override files environment
      | none => .nothing environment

def run (library : Dotenv) (file? : Option Path) (override : Bool) : Run Unit :=
  Run.ofResult fun w =>
    let loaded := library.load file? override w.files w.environment
    (loaded.answer,
      { w with environment := loaded.environment, warnings := w.warnings ++ loaded.warnings })

end Dotenv
end CatalogTypes
