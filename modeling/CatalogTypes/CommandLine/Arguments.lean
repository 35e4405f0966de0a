import CatalogTypes.Text.Quoted
import CatalogTypes.Unicode.Digit

/-! # Command-line arguments

Long options may be shortened to any beginning that only they have, and take a value after an
equals sign or as the next argument. Single-letter options may be joined. The arguments are
first told apart one by one and then taken in order; asking for help ends that at once.
-/
namespace CatalogTypes.CommandLine

inductive OptionName where
  | help
  | all
  | contentTypes
  | sections
  | sourceDir
  | outputDir
  | list
  | status
  deriving DecidableEq, Repr

/-- A spelling with two hyphens is long. -/
def OptionName.spellings : OptionName → List Text
  | .help => ["-h", "--help"]
  | .all => ["--all", "-a"]
  | .contentTypes => ["--content-types"]
  | .sections => ["--sections"]
  | .sourceDir => ["--source-dir"]
  | .outputDir => ["--output-dir"]
  | .list => ["--list"]
  | .status => ["--status"]

def OptionName.known : List OptionName :=
  [.help, .all, .contentTypes, .sections, .sourceDir, .outputDir, .list, .status]

def OptionName.takesValue : OptionName → Bool
  | .sourceDir | .outputDir => true
  | _ => false

/-- Every spelling with its option, in the order in which they are declared. -/
def spellings : List (Text × OptionName) :=
  OptionName.known.flatMap fun o => o.spellings.map (·, o)

structure Options where
  all : Bool
  contentTypes : Bool
  sections : Bool
  list : Bool
  status : Bool
  sourceDir : Text
  outputDir : Text
  deriving DecidableEq, Repr

/-- A directory that is not given is the empty text. -/
def Options.none : Options := ⟨false, false, false, false, false, [], []⟩

def Options.set (o : Options) (value : Text) : OptionName → Options
  | .help => o
  | .all => { o with all := true }
  | .contentTypes => { o with contentTypes := true }
  | .sections => { o with sections := true }
  | .sourceDir => { o with sourceDir := value }
  | .outputDir => { o with outputDir := value }
  | .list => { o with list := true }
  | .status => { o with status := true }

inductive UsageError where
  | ambiguous (given : Text) (candidates : List Text)
  | expectedValue (option : OptionName)
  | ignoredValue (option : OptionName) (value : Text)
  | unrecognized (arguments : List Text)
  deriving DecidableEq, Repr

def UsageError.message : UsageError → Text
  | .ambiguous given candidates =>
    "ambiguous option: " ++ given ++ " could match " ++ List.intercalate (text ", ") candidates
  | .expectedValue option => blame option ++ "expected one argument"
  | .ignoredValue option value => blame option ++ "ignored explicit argument " ++ value.quoted
  | .unrecognized arguments => "unrecognized arguments: " ++ List.intercalate (text " ") arguments
where
  blame (option : OptionName) : Text :=
    "argument " ++ List.intercalate (text "/") option.spellings ++ ": "

/-- An argument by itself. An option may have a value attached, behind an equals sign or, when
it is spelled with a single hyphen, directly behind its letter. -/
inductive Token where
  | separator
  | value (given : Text)
  | unknown (given : Text)
  | option (name : OptionName) (isShort : Bool) (attached : Option Text)
  deriving DecidableEq, Repr

def cutAtEquals (t : Text) : Text × Option Text :=
  let name := t.takeWhile (· ≠ ('=' : CodePoint))
  (name, if name.length < t.length then some (t.drop (name.length + 1)) else Option.none)

/-- Is an argument a negative number? One line feed may end it. -/
def isNegativeNumber (t : Text) : Bool :=
  let body := if t.getLast? = some ('\n' : CodePoint) then t.dropLast else t
  let whole := (body.drop 1).takeWhile Unicode.isDecimalDigit
  let rest := (body.drop 1).dropWhile Unicode.isDecimalDigit
  let fraction := rest.drop 1
  body.head? = some ('-' : CodePoint) &&
    ((rest.isEmpty && !whole.isEmpty) ||
      (rest.head? = some ('.' : CodePoint) && !fraction.isEmpty &&
        fraction.all Unicode.isDecimalDigit))

def isLong (t : Text) : Bool := (text "--").isPrefixOf t

/-- The options that an argument may be short for, with what is attached to it. -/
def interpretations (given : Text) : List (Text × Token) :=
  if isLong given then
    let (name, attached) := cutAtEquals given
    spellings.filterMap fun (spelling, o) =>
      if name.isPrefixOf spelling then some (spelling, .option o false attached) else Option.none
  else
    spellings.filterMap fun (spelling, o) =>
      if spelling = given.take 2 then some (spelling, .option o true (some (given.drop 2)))
      else Option.none

/-- What an argument is when it begins with a hyphen, spells no option out and stands alone. -/
def abbreviated (given : Text) : Except UsageError Token :=
  match interpretations given with
  | [(_, token)] => .ok token
  | [] =>
    if isNegativeNumber given || given.contains (' ' : CodePoint) then .ok (.value given)
    else .ok (.unknown given)
  | several => .error (.ambiguous given (several.map Prod.fst))

def token (given : Text) : Except UsageError Token :=
  if given.head? ≠ some ('-' : CodePoint) then .ok (.value given)
  else match spellings.lookup given with
    | some o => .ok (.option o (!isLong given) Option.none)
    | none =>
      if given.length = 1 then .ok (.value given)
      else
        let (name, attached) := cutAtEquals given
        match attached, spellings.lookup name with
        | some value, some o => .ok (.option o (!isLong name) (some value))
        | _, _ => abbreviated given

/-- Behind two hyphens alone there are values only. -/
def tokens : List Text → Except UsageError (List Token)
  | [] => .ok []
  | given :: rest =>
    if given = text "--" then .ok (.separator :: rest.map .value)
    else do
      let first ← token given
      let more ← tokens rest
      return first :: more

/-- The options joined behind a single-letter option that takes no value. -/
def joined (o : OptionName) : Text → Except UsageError (List OptionName)
  | [] => .ok [o]
  | c :: rest =>
    match spellings.lookup (text "-" ++ [c]) with
    | some next => (joined next rest).map (o :: ·)
    | none => .error (.ignoredValue o (c :: rest))

/-- The options that one argument stands for, if it has nothing to do with the next one. -/
def flags (o : OptionName) (isShort : Bool) : Option Text → Except UsageError (List OptionName)
  | none => .ok [o]
  | some attached =>
    if isShort && !attached.isEmpty then joined o attached else .error (.ignoredValue o attached)

/-- A value behind an equals sign. Two hyphens alone separate arguments, there too, and are no
value. -/
def attachedValue (given : Text) : Text := if given = text "--" then [] else given

inductive Request where
  | run (options : Options)
  | help
  | refused (e : UsageError)
  deriving DecidableEq, Repr

/-- Takes tokens in order; what nothing takes is complained about at the end. -/
def take (o : Options) (extra : List Text) : List Token → Request
  | [] => if extra.isEmpty then .run o else .refused (.unrecognized extra)
  | .separator :: rest => take o (extra ++ [text "--"]) rest
  | .value given :: rest => take o (extra ++ [given]) rest
  | .unknown given :: rest => take o (extra ++ [given]) rest
  | .option name isShort attached :: rest =>
    if name.takesValue then
      match attached with
      | some value => take (o.set (attachedValue value) name) extra rest
      | none => match rest with
        | .value given :: rest => take (o.set given name) extra rest
        | _ => .refused (.expectedValue name)
    else match flags name isShort attached with
      | .error e => .refused e
      | .ok names =>
        if names.contains .help then .help
        else take (names.foldl (·.set []) o) extra rest

def request (arguments : List Text) : Request :=
  match tokens arguments with
  | .error e => .refused e
  | .ok ts => take .none [] ts

end CatalogTypes.CommandLine
