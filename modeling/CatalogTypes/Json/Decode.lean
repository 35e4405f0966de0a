import CatalogTypes.Json.Basic
import CatalogTypes.Json.DecodeError

/-! # Reading JSON

The reader takes one value and nothing after it. It accepts the names of the doubles that are
no numbers, and single surrogates in strings. A refusal says what was expected and where: the
place is found from the text that was still unread, so the reader itself counts nothing.
-/
namespace CatalogTypes.Json

/-- What stops the reader, with the text that was unread at the place it speaks of. -/
inductive Fault where
  | malformed (problem : Problem) (unread : Text)
  | tooManyDigits (count : Nat)
  | tooDeep (container : Container)

/-- Names the place of a fault in the whole text. Lines end at line feeds only. -/
def Fault.located (whole : Text) : Fault → DecodeError
  | .malformed problem unread =>
    let position := whole.length - unread.length
    let read := whole.take position
    .malformed problem position (1 + read.count ('\n' : CodePoint))
      (1 + (read.reverse.takeWhile (· ≠ ('\n' : CodePoint))).length)
  | .tooManyDigits count => .tooManyDigits count
  | .tooDeep container => .tooDeep container

def isSpace (c : CodePoint) : Bool := c = ' ' || c = '\t' || c = '\n' || c = '\r'

def skipSpace (t : Text) : Text := t.dropWhile isSpace

/-- The code point of four hexadecimal digits. Something must follow them, since the string
that holds the escape is still open. -/
def hexEscape? : Text → Option (CodePoint × Text)
  | a :: b :: c :: d :: e :: rest => do
    let n :=
      (← a.hexDigit?) * 0x1000 + (← b.hexDigit?) * 0x100 + (← c.hexDigit?) * 0x10 + (← d.hexDigit?)
    return (Fin.ofNat 0x110000 n, e :: rest)
  | _ => none

def simpleEscape? (c : CodePoint) : Option CodePoint :=
  if c = .quotationMark ∨ c = .backslash ∨ c = '/' then some c
  else if c = 'b' then some 0x08
  else if c = 'f' then some 0x0C
  else if c = 'n' then some '\n'
  else if c = 'r' then some '\r'
  else if c = 't' then some '\t'
  else none

/-- Adds a code point to what was read of a string, the last one first. The low half of a pair
of surrogates joins the high half before it if both were escaped. -/
def pushUnit (done : Text) (high : Option CodePoint) (c : CodePoint) : Text × Option CodePoint :=
  match high, c.isLowSurrogate, c.isHighSurrogate with
  | some h, true, _ => (CodePoint.ofSurrogates h c :: done.drop 1, none)
  | _, _, true => (c :: done, some c)
  | _, _, false => (c :: done, none)

/-- Reads a string from behind its opening quote, which stands at the head of `opening`. -/
def stringBody (opening : Text) (done : Text) (high : Option CodePoint) :
    (fuel : Nat) → Text → Except Fault (Text × Text)
  | 0, _ => .error (.malformed .unterminatedString opening)
  | _ + 1, [] => .error (.malformed .unterminatedString opening)
  | fuel + 1, c :: rest =>
    if c = .quotationMark then .ok (done.reverse, rest)
    else if c = .backslash then
      match rest with
      | [] => .error (.malformed .unterminatedString opening)
      | e :: rest' =>
        if e = 'u' then
          match hexEscape? rest' with
          | some (u, rest'') =>
            let (done, high) := pushUnit done high u
            stringBody opening done high fuel rest''
          | none => .error (.malformed .invalidUnicodeEscape (e :: rest'))
        else match simpleEscape? e with
          | some s => stringBody opening (s :: done) none fuel rest'
          | none => .error (.malformed .invalidEscape (c :: rest))
    else if c.val < 0x20 then .error (.malformed .controlCharacter (c :: rest))
    else stringBody opening (c :: done) none fuel rest

def readString (fuel : Nat) (t : Text) : Except Fault (Text × Text) :=
  stringBody t [] none fuel (t.drop 1)

def fraction (t : Text) : Text × Text :=
  match t with
  | [] => ([], t)
  | c :: rest =>
    let digits := rest.takeWhile (·.isDigit)
    if c = '.' ∧ digits ≠ [] then (digits, rest.dropWhile (·.isDigit)) else ([], t)

def exponent (t : Text) : Option Int × Text :=
  match t with
  | [] => (none, t)
  | c :: rest =>
    if c = 'e' ∨ c = 'E' then
      let negative := rest.head? = some ('-' : CodePoint)
      let signed := negative ∨ rest.head? = some ('+' : CodePoint)
      let unsigned := if signed then rest.drop 1 else rest
      let digits := unsigned.takeWhile (·.isDigit)
      if digits = [] then (none, t)
      else
        let n : Int := Text.toNat digits
        (some (if negative then -n else n), unsigned.dropWhile (·.isDigit))
    else (none, t)

/-- The integer part of a numeral: a zero alone, or digits that do not begin with one. -/
def wholePart? : Text → Option (Text × Text)
  | [] => none
  | c :: rest =>
    if c = '0' then some ([c], rest)
    else if c.isDigit then some (c :: rest.takeWhile (·.isDigit), rest.dropWhile (·.isDigit))
    else none

/-- Reads a number. It is an integer if it has neither fraction nor exponent. -/
def readNumber (t : Text) : Except Fault (Json × Text) :=
  let negative := t.head? = some ('-' : CodePoint)
  match wholePart? (if negative then t.drop 1 else t) with
  | none => .error (.malformed .expectedValue t)
  | some (digits, rest) =>
    let (places, rest') := fraction rest
    let (power, rest'') := exponent rest'
    if places = [] ∧ power = none then
      if digitLimit < digits.length then .error (.tooManyDigits digits.length)
      else
        let n : Int := Text.toNat digits
        .ok (.int (if negative then -n else n), rest'')
    else
      let x :=
        Binary64.ofDecimal negative (Text.toNat (digits ++ places)) (power.getD 0 - places.length)
      .ok (.float x, rest'')

def namedValues : List (Text × Json) :=
  [("null", .null), ("true", .bool true), ("false", .bool false), ("NaN", .float .nan),
    ("Infinity", .float (.infinity false)), ("-Infinity", .float (.infinity true))]

def namedValue? (t : Text) : Option (Json × Text) :=
  namedValues.findSome? fun (name, value) => (Text.after? name t).map fun rest => (value, rest)

mutual

/-- Reads a value inside `nestingLimit - room` arrays and objects. -/
def readValue (room : Nat) : (fuel : Nat) → Text → Except Fault (Json × Text)
  | 0, t => .error (.malformed .expectedValue t)
  | fuel + 1, t =>
    match t with
    | [] => .error (.malformed .expectedValue t)
    | c :: rest =>
      if c = .quotationMark then do
        let (s, rest) ← readString fuel t
        return (.string s, rest)
      else if c = '[' then
        match room with
        | 0 => .error (.tooDeep .array)
        | room + 1 => do
          let rest := skipSpace rest
          if rest.head? = some (']' : CodePoint) then return (.array [], rest.drop 1)
          let (items, rest) ← readItems room [] fuel rest
          return (.array items, rest)
      else if c = '\x7b' then
        match room with
        | 0 => .error (.tooDeep .object)
        | room + 1 => do
          let rest := skipSpace rest
          if rest.head? = some ('\x7d' : CodePoint) then return (.object [], rest.drop 1)
          let (members, rest) ← readMembers room [] fuel rest
          return (.object members, rest)
      else match namedValue? t with
        | some found => .ok found
        | none => readNumber t

def readItems (room : Nat) (done : List Json) :
    (fuel : Nat) → Text → Except Fault (List Json × Text)
  | 0, t => .error (.malformed .expectedComma t)
  | fuel + 1, t => do
    let (value, rest) ← readValue room fuel t
    let rest := skipSpace rest
    if rest.head? = some (']' : CodePoint) then return ((value :: done).reverse, rest.drop 1)
    if rest.head? = some (',' : CodePoint) then
      readItems room (value :: done) fuel (skipSpace (rest.drop 1))
    else throw (.malformed .expectedComma rest)

/-- Reads the members of an object up to its closing brace. A repeated name takes its last value. -/
def readMembers (room : Nat) (done : List (Text × Json)) :
    (fuel : Nat) → Text → Except Fault (List (Text × Json) × Text)
  | 0, t => .error (.malformed .expectedComma t)
  | fuel + 1, t => do
    if t.head? ≠ some CodePoint.quotationMark then throw (.malformed .expectedName t)
    let (name, rest) ← readString fuel t
    let rest := skipSpace rest
    if rest.head? ≠ some (':' : CodePoint) then throw (.malformed .expectedColon rest)
    let (value, rest) ← readValue room fuel (skipSpace (rest.drop 1))
    let done := Association.put name value done
    let rest := skipSpace rest
    if rest.head? = some ('\x7d' : CodePoint) then return (done, rest.drop 1)
    if rest.head? = some (',' : CodePoint) then readMembers room done fuel (skipSpace (rest.drop 1))
    else throw (.malformed .expectedComma rest)

end

def byteOrderMark : CodePoint := 0xFEFF

def decode (whole : Text) : Except DecodeError Json :=
  let outcome : Except Fault Json := do
    if whole.head? = some byteOrderMark then throw (.malformed .byteOrderMark whole)
    let (value, rest) ← readValue nestingLimit (2 * whole.length + 2) (skipSpace whole)
    match skipSpace rest with
    | [] => return value
    | rest => throw (.malformed .extraData rest)
  outcome.mapError (·.located whole)

end CatalogTypes.Json
