import CatalogTypes.Files.Memory
import CatalogTypes.Files.Tree
import CatalogTypes.Log

/-! # Runs

A run acts on the files, a store in memory, the environment and the log, and may give warnings
beside the log. What was done before a failure stays done.
-/
namespace CatalogTypes

abbrev Environment := List (Text × Text)

structure World where
  files : FileTree
  memory : Memory
  environment : Environment
  log : Log
  warnings : List Text

/-- An empty working directory at the root, and nothing else. -/
def World.empty : World := ⟨.ofWorkDirectory [], .empty [], [], [], []⟩

abbrev Run := ExceptT Failure (StateM World)

namespace Run

variable {α : Type}

def result (run : Run α) (w : World) : Except Failure α × World := StateT.run (ExceptT.run run) w

def ofResult (f : World → Except Failure α × World) : Run α := ExceptT.mk (StateT.mk f)

def attempt (run : Run α) : Run (Except Failure α) :=
  ofResult fun w =>
    let (r, w) := run.result w
    (.ok r, w)

def note (level : LogLevel) (message : Text) : Run Unit :=
  ofResult fun w => (.ok (), { w with log := w.log ++ [⟨level, message⟩] })

def info (message : Text) : Run Unit := note .info message

def noteAll (entries : Log) : Run Unit :=
  ofResult fun w => (.ok (), { w with log := w.log ++ entries })

def onFiles (f : FileTree → Except Failure α) : Run α :=
  ofResult fun w => (f w.files, w)

def changeFiles (f : FileTree → Except Failure Unit × FileTree) : Run Unit :=
  ofResult fun w =>
    let (r, files) := f w.files
    (r, { w with files })

def onMemory (f : Memory → Except MemoryError α) : Run α :=
  ofResult fun w => ((f w.memory).mapError .memory, w)

def changeMemory (f : Memory → Except MemoryError Memory) : Run Unit :=
  ofResult fun w => match f w.memory with
    | .ok memory => (.ok (), { w with memory })
    | .error e => (.error (.memory e), w)

def world : Run World := ofResult fun w => (.ok w, w)

variable {β : Type}

@[simp] theorem result_ofResult (f : World → Except Failure α × World) (w : World) :
    (ofResult f).result w = f w := rfl

@[simp] theorem result_pure (a : α) (w : World) : (pure a : Run α).result w = (.ok a, w) := rfl

@[simp] theorem result_throw (e : Failure) (w : World) :
    (throw e : Run α).result w = (.error e, w) := rfl

theorem result_bind (run : Run α) (f : α → Run β) (w : World) :
    (run >>= f).result w =
      match run.result w with
      | (.ok a, next) => (f a).result next
      | (.error e, next) => (.error e, next) := by
  simp only [result, bind, ExceptT.run, ExceptT.bind, ExceptT.mk, StateT.bind, StateT.run]
  rcases run w with ⟨r, next⟩
  cases r <;> rfl

theorem result_bind_eq_ok {run : Run α} {f : α → Run β} {b : β} {w last : World}
    (h : (run >>= f).result w = (.ok b, last)) :
    ∃ a next, run.result w = (.ok a, next) ∧ (f a).result next = (.ok b, last) := by
  rw [result_bind] at h
  rcases hr : run.result w with ⟨r, next⟩
  rw [hr] at h
  cases r with
  | error e => cases h
  | ok a => exact ⟨a, next, rfl, h⟩

@[simp] theorem result_attempt (run : Run α) (w : World) :
    run.attempt.result w = (.ok (run.result w).1, (run.result w).2) := rfl

@[simp] theorem result_note (level : LogLevel) (message : Text) (w : World) :
    (note level message).result w = (.ok (), { w with log := w.log ++ [⟨level, message⟩] }) := rfl

@[simp] theorem result_info (message : Text) (w : World) :
    (info message).result w = (.ok (), { w with log := w.log ++ [⟨.info, message⟩] }) := rfl

@[simp] theorem result_noteAll (entries : Log) (w : World) :
    (noteAll entries).result w = (.ok (), { w with log := w.log ++ entries }) := rfl

@[simp] theorem result_onFiles (f : FileTree → Except Failure α) (w : World) :
    (onFiles f).result w = (f w.files, w) := rfl

@[simp] theorem result_changeFiles (f : FileTree → Except Failure Unit × FileTree) (w : World) :
    (changeFiles f).result w = ((f w.files).1, { w with files := (f w.files).2 }) := rfl

end Run
end CatalogTypes
