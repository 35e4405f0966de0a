import CatalogTypes.Text.Lines

/-! # Environment files

An environment file is a list of bindings `NAME=value`. Blank lines and comments separate them,
`export` may stand before a name, and a value may be quoted. A line that is no binding is
complained about and skipped. A name without a value is a binding too, of no value.
-/
namespace CatalogTypes.EnvFile
open Unicode Text

structure Binding where
  name : Text
  value : Option Text
  deriving DecidableEq, Repr

def isLineEnd (c : CodePoint) : Bool := c = '\n' || c = '\r'

/-- A statement of a file. Of one that cannot be read, only the line is known on which the
statement before it had ended. -/
inductive Statement where
  | binding (b : Binding)
  | comment
  | unreadable (line : Nat)
  deriving DecidableEq, Repr

def isInnerBlank (c : CodePoint) : Bool := isBlank c && !isLineEnd c

def skipBlanks (t : Text) : Text := t.dropWhile isInnerBlank

def nextLine (t : Text) : Text := (t.dropWhile (!isLineEnd ·)).drop 1

/-- A quoted text up to its closing quote, the first one that no backslash escapes, and what
follows that quote. -/
def quotedBody? (quote : CodePoint) : (escaped : Bool) → Text → Option (Text × Text)
  | _, [] => none
  | escaped, c :: rest =>
    if c = quote && !escaped then some ([], rest)
    else (quotedBody? quote (c = CodePoint.backslash && !escaped) rest).map fun (body, rest') =>
      (c :: body, rest')

def controlEscapes : List (CodePoint × CodePoint) :=
  [('a', 0x07), ('b', 0x08), ('f', 0x0C), ('n', 0x0A), ('r', 0x0D), ('t', 0x09), ('v', 0x0B)]

def singleEscape? (c : CodePoint) : Option CodePoint :=
  if c = .backslash ∨ c = .apostrophe then some c else none

def doubleEscape? (c : CodePoint) : Option CodePoint :=
  if c = .backslash ∨ c = .apostrophe ∨ c = .quotationMark then some c else controlEscapes.lookup c

def unescape (escape? : CodePoint → Option CodePoint) : Text → Text
  | [] => []
  | [c] => [c]
  | c :: d :: rest =>
    match if c = .backslash then escape? d else none with
    | some e => e :: unescape escape? rest
    | none => c :: unescape escape? (d :: rest)

def dropComment : Text → Text
  | [] => []
  | c :: rest =>
    if isBlank c ∧ (rest.dropWhile isBlank).head? = some ('#' : CodePoint) then []
    else c :: dropComment rest

/-- What is left of a line without its comment. Right behind the equals sign a number sign opens
no comment. -/
def unquotedValue (line : Text) : Text := (dropComment line).trim

def value? (t : Text) : Option (Text × Text) :=
  match skipBlanks t with
  | [] => some ([], [])
  | c :: rest =>
    if c = .apostrophe then
      (quotedBody? c false rest).map fun (body, rest) => (unescape singleEscape? body, rest)
    else if c = .quotationMark then
      (quotedBody? c false rest).map fun (body, rest) => (unescape doubleEscape? body, rest)
    else some (unquotedValue (t.takeWhile (!isLineEnd ·)), t.dropWhile (!isLineEnd ·))

def skipExport (t : Text) : Text :=
  match after? "export" t with
  | some (c :: rest) => if isInnerBlank c then skipBlanks rest else t
  | _ => t

def isNameEnd (c : CodePoint) : Bool := c = '=' || c = '#' || isBlank c

/-- The name at which a text stands, and what follows it. A comment has no name. -/
def name? (t : Text) : Option (Option Text × Text) :=
  match t with
  | [] => none
  | c :: rest =>
    if c = '#' then some (none, t)
    else if c = .apostrophe then
      let name := rest.takeWhile (· ≠ .apostrophe)
      if name.isEmpty ∨ name.length = rest.length then none
      else some (some name, rest.drop (name.length + 1))
    else if isNameEnd c then none
    else some (some (t.takeWhile (!isNameEnd ·)), t.dropWhile (!isNameEnd ·))

/-- What follows the end of a binding, if nothing but a comment stands before the end of the
line. -/
def afterBinding? (t : Text) : Option Text :=
  let t := skipBlanks t
  let t := if t.head? = some ('#' : CodePoint) then t.dropWhile (!isLineEnd ·) else t
  match t with
  | [] => some []
  | c :: rest => if isLineEnd c then some rest else none

/-- The statement at which a text stands, and where the next one is looked for. -/
def statement (line : Nat) (t : Text) : Statement × Text :=
  let t := skipExport t
  match name? t with
  | none => (.unreadable line, nextLine t)
  | some (name, rest) =>
    let rest := skipBlanks rest
    let valued : Option (Option Text × Text) :=
      if rest.head? = some ('=' : CodePoint) then
        (value? (rest.drop 1)).map fun (v, rest) => (some v, rest)
      else some (none, rest)
    match valued with
    | none => (.unreadable line, nextLine rest)
    | some (value, rest) =>
      match afterBinding? rest, name with
      | none, _ => (.unreadable line, nextLine rest)
      | some rest, some name => (.binding ⟨name, value⟩, rest)
      | some rest, none => (.comment, rest)

def statementsFrom : (fuel : Nat) → (line : Nat) → Text → List Statement
  | 0, _, _ => []
  | fuel + 1, line, t =>
    match t.dropWhile isBlank with
    | [] => []
    | c :: rest =>
      let (found, next) := statement line (c :: rest)
      let read : Text := t.take (t.length - next.length)
      found :: statementsFrom fuel (line + read.lineEnds) next

/-- The statements of a file. A byte order mark in front of them is no part of it. -/
def statements (t : Text) : List Statement :=
  let t := if t.head? = some 0xFEFF then t.drop 1 else t
  statementsFrom t.length 1 t

def bindings (statements : List Statement) : List Binding :=
  statements.filterMap fun
    | .binding b => some b
    | _ => none

def complaints (statements : List Statement) : List Text :=
  statements.filterMap fun
    | .unreadable line =>
      some ("python-dotenv could not parse statement starting at line " ++ Text.ofNat line)
    | _ => none

end CatalogTypes.EnvFile
