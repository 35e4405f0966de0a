import CatalogTypes.Text
import CatalogTypes.Unicode.Word

/-! # Exports

An index is read back by looking for its export lines. Both names of an export are whole runs of
word characters, the schema's and the type's, and the identifier is what comes before the second
one's ending.
-/
namespace CatalogTypes.Package
open Unicode

def word (t : Text) : Text × Text := (t.takeWhile isWord, t.dropWhile isWord)

def stem? (ending t : Text) : Option Text :=
  let n := t.length - ending.length
  if ending.length < t.length ∧ t.drop n = ending then some (t.take n) else none

/-- The identifier of an export at the beginning of a text, and what follows the export. -/
def export? (t : Text) : Option (Text × Text) := do
  let rest ← Text.after? "export \x7b " t
  let (schemaName, rest) := word rest
  let _ ← stem? "Schema" schemaName
  let rest ← Text.after? ", " rest
  let (typeName, rest) := word rest
  let identifier ← stem? "Type" typeName
  let rest ← Text.after? " \x7d" rest
  return (identifier, rest)

/-- All exports, skipping the code points of an export that was found. -/
def exportsFrom : (skip : Nat) → Text → List Text
  | _, [] => []
  | skip + 1, _ :: rest => exportsFrom skip rest
  | 0, c :: rest =>
    match export? (c :: rest) with
    | some (identifier, after) => identifier :: exportsFrom (rest.length - after.length) rest
    | none => exportsFrom 0 rest

def exportsOf (index : Text) : List Text := exportsFrom 0 index

end CatalogTypes.Package
