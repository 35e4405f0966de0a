import CatalogTypes.Association
import CatalogTypes.Settings.EnvFile
import CatalogTypes.World

/-! # Assignments

The bindings of an environment file give variables their values. A value may refer to a variable
as `${NAME}`, or as `${NAME:-default}` for the case that there is none. Each name gets the last
value that it is bound to, in the order in which the names first came. A file either overrides the
variables that are set, or else gives way to them.
-/
namespace CatalogTypes.EnvFile

/-- A reference to a variable, with the number of code points that it takes. -/
structure Reference where
  name : Text
  default : Text
  size : Nat
  deriving DecidableEq, Repr

def isClosing (c : CodePoint) : Bool := c.val = 0x7D

def referenceTo? (t : Text) : Option Reference :=
  let name := t.takeWhile fun c => !isClosing c && c ≠ ':'
  match t.drop name.length with
  | [] => none
  | c :: rest =>
    if isClosing c then some ⟨name, [], name.length + 1⟩
    else (Text.after? "-" rest).bind fun rest =>
      let default := rest.takeWhile (!isClosing ·)
      if default.length < rest.length then some ⟨name, default, name.length + default.length + 3⟩
      else none

def opening : Text := [0x24, 0x7B]

def reference? (t : Text) : Option Reference :=
  ((Text.after? opening t).bind referenceTo?).map fun r =>
    { r with size := r.size + opening.length }

/-- A value with what its references stand for, skipping the rest of one already read. -/
def expandFrom (value? : Text → Option Text) : (skip : Nat) → Text → Text
  | _, [] => []
  | skip + 1, _ :: rest => expandFrom value? skip rest
  | 0, c :: rest =>
    match reference? (c :: rest) with
    | some r => (value? r.name).getD r.default ++ expandFrom value? (r.size - 1) rest
    | none => c :: expandFrom value? 0 rest

def referencesIn : Text → List Text
  | [] => []
  | c :: rest => ((reference? (c :: rest)).map (·.name)).toList ++ referencesIn rest

/-- A value of a file, or the one that is there already, whichever goes before the other. -/
def settle (override : Bool) (given held : Option Text) : Option Text :=
  if override then given.or held else held.or given

/-- What a name stands for, between its variable and what the file has bound it to so far. A name
that is bound to no value stands for nothing. -/
def meaning? (override : Bool) (bound : List (Text × Option Text)) (environment : Environment)
    (name : Text) : Option Text :=
  settle override ((bound.lookup name).map (·.getD [])) (environment.lookup name)

def resolve (override : Bool) (environment : Environment) (bs : List Binding) :
    List (Text × Option Text) :=
  bs.foldl (fun bound b =>
    Association.put b.name (b.value.map (expandFrom (meaning? override bound environment) 0)) bound)
      []

def assign (name value : Text) (environment : Environment) : Except Failure Environment :=
  if name.contains 0 || value.contains 0 then .error .embeddedNull
  else if name.contains ('=' : CodePoint) then .error .variableName
  else .ok (Association.put name value environment)

/-- Assigns in turn, up to the first assignment that is refused. A name without a value keeps the
variable that it has. -/
def assignEach (override : Bool) :
    List (Text × Option Text) → Environment → Except Failure Unit × Environment
  | [], environment => (.ok (), environment)
  | (_, none) :: rest, environment => assignEach override rest environment
  | (name, some value) :: rest, environment =>
    if !override && (environment.lookup name).isSome then assignEach override rest environment
    else match assign name value environment with
    | .ok assigned => assignEach override rest assigned
    | .error e => (.error e, environment)

def assignAll (override : Bool) (bs : List Binding) (environment : Environment) :
    Except Failure Unit × Environment :=
  assignEach override (resolve override environment bs) environment

end CatalogTypes.EnvFile
