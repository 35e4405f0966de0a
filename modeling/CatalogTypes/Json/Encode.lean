import CatalogTypes.Json.Basic
import CatalogTypes.Decimal.Layout

/-! # Writing JSON

A value has one written form on a single line and one with its members on lines of their own.
Strings escape what must be escaped and, where the output has to be ASCII, all that is not.
-/
namespace CatalogTypes.Json

/-- Which code points of a string are written as they are. -/
inductive Charset where
  | unicode
  | ascii
  deriving DecidableEq

def jsonNames : Binary64.SpecialNames := ⟨"Infinity", "NaN"⟩

def unitEscape (unit : Nat) : Text := "\\u" ++ Text.hex 4 unit

/-- The escape of any code point; one beyond the first plane takes two units. -/
def unicodeEscape (n : Nat) : Text :=
  if n < 0x10000 then unitEscape n
  else unitEscape (0xD800 + (n - 0x10000) / 0x400) ++ unitEscape (0xDC00 + (n - 0x10000) % 0x400)

def escaped (charset : Charset) (c : CodePoint) : Text :=
  if c = .quotationMark ∨ c = .backslash then [.backslash, c]
  else if c = '\n' then "\\n"
  else if c = '\r' then "\\r"
  else if c = '\t' then "\\t"
  else if c.val = 0x08 then "\\b"
  else if c.val = 0x0C then "\\f"
  else if c.val < 0x20 then unitEscape c.val
  else if charset = .ascii ∧ 0x7F ≤ c.val then unicodeEscape c.val
  else [c]

def writeString (charset : Charset) (s : Text) : Text :=
  CodePoint.quotationMark :: s.flatMap (escaped charset) ++ [CodePoint.quotationMark]

mutual

def write (charset : Charset) : Json → Text
  | .null => "null"
  | .bool true => "true"
  | .bool false => "false"
  | .int n => Text.ofInt n
  | .float x => x.render jsonNames
  | .string s => writeString charset s
  | .array items => "[" ++ writeItems charset items ++ "]"
  | .object members => "\x7b" ++ writeMembers charset members ++ "\x7d"

def writeItems (charset : Charset) : List Json → Text
  | [] => []
  | [item] => write charset item
  | item :: next :: rest => write charset item ++ ", " ++ writeItems charset (next :: rest)

def writeMembers (charset : Charset) : List (Text × Json) → Text
  | [] => []
  | [(name, value)] => writeString charset name ++ ": " ++ write charset value
  | (name, value) :: next :: rest =>
    writeString charset name ++ ": " ++ write charset value ++ ", " ++
      writeMembers charset (next :: rest)

end

/-- The single line that keeps every code point it can. -/
def encode (value : Json) : Text := value.write .unicode

mutual

/-- The form with two more spaces before the members of each inner array or object. -/
def writeLines (charset : Charset) (margin : Text) : Json → Text
  | .array [] => "[]"
  | .object [] => "\x7b\x7d"
  | .array (item :: items) =>
    "[" ++ itemLines charset (margin ++ "  ") (item :: items) ++ margin ++ "]"
  | .object (member :: members) =>
    "\x7b" ++ memberLines charset (margin ++ "  ") (member :: members) ++ margin ++ "\x7d"
  | value => value.write charset

def itemLines (charset : Charset) (margin : Text) : List Json → Text
  | [] => []
  | [item] => margin ++ writeLines charset margin item
  | item :: next :: rest =>
    margin ++ writeLines charset margin item ++ "," ++ itemLines charset margin (next :: rest)

def memberLines (charset : Charset) (margin : Text) : List (Text × Json) → Text
  | [] => []
  | [(name, value)] => margin ++ writeString charset name ++ ": " ++ writeLines charset margin value
  | (name, value) :: next :: rest =>
    margin ++ writeString charset name ++ ": " ++ writeLines charset margin value ++ "," ++
      memberLines charset margin (next :: rest)

end

end CatalogTypes.Json
