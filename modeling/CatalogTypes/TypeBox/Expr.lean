import CatalogTypes.Schema.Basic
import CatalogTypes.Json.Encode

/-! # TypeBox expressions

An expression is the part of a schema that its type depends on: captions are gone, choices are
a union of literals, and each field of an object knows whether it is required. Only fields are
written on lines of their own, two spaces further in than their object.
-/
namespace CatalogTypes.TypeBox

inductive Expr where
  | any
  | string
  | number
  | integer
  | boolean
  | null
  | union (literals : List Json)
  | array (items : Expr)
  | object (fields : List (Text × Bool × Expr))
  deriving Inhabited

namespace Expr

def ofLeaf : LeafKind → Expr
  | .number => .number
  | .integer => .integer
  | .boolean => .boolean
  | .null => .null
  | .unknown => .any

mutual

def ofSchema : Schema Json → Expr
  | .leaf _ kind => ofLeaf kind
  | .string _ [] => .string
  | .string _ (choice :: choices) => .union (choice :: choices)
  | .array _ none => .array .any
  | .array _ (some items) => .array (ofSchema items)
  | .object _ properties required => .object (ofProperties required properties)

def ofProperties (required : List Text) : List (Text × Schema Json) → List (Text × Bool × Expr)
  | [] => []
  | (name, s) :: rest => (name, required.contains name, ofSchema s) :: ofProperties required rest

end

def isNamePart (c : CodePoint) : Bool := c.isAlphanumeric || c = '_' || c = '$'

/-- Is a name written without quotes? One line feed may follow the identifier. -/
def isPlainKey : Text → Bool
  | [] => false
  | c :: rest =>
    let tail := rest.dropWhile isNamePart
    isNamePart c && !c.isDigit && (tail.isEmpty || tail = text "\n")

def key (name : Text) : Text :=
  if isPlainKey name then name else Json.writeString .unicode name

def literal (value : Json) : Text := "Type.Literal(" ++ value.encode ++ ")"

def indentation : Text := "  "

def optional (required : Bool) (type : Text) : Text :=
  if required then type else "Type.Optional(" ++ type ++ ")"

mutual

/-- The text of an expression whose first line is indented by `indent`. -/
def render (indent : Text) : Expr → Text
  | .any => "Type.Any()"
  | .string => "Type.String()"
  | .number => "Type.Number()"
  | .integer => "Type.Integer()"
  | .boolean => "Type.Boolean()"
  | .null => "Type.Null()"
  | .union literals => "Type.Union([" ++ List.intercalate (text ", ") (literals.map literal) ++ "])"
  | .array items => "Type.Array(" ++ render indent items ++ ")"
  | .object [] => "Type.Object(\x7b\x7d)"
  | .object (field :: fields) =>
    "Type.Object(\x7b\n" ++ renderFields (indent ++ indentation) (field :: fields) ++ "\n" ++
      indent ++ "\x7d)"

def renderFields (indent : Text) : List (Text × Bool × Expr) → Text
  | [] => []
  | [(name, required, e)] => indent ++ key name ++ ": " ++ optional required (render indent e)
  | (name, required, e) :: next :: rest =>
    indent ++ key name ++ ": " ++ optional required (render indent e) ++ ",\n" ++
      renderFields indent (next :: rest)

end

end Expr

def schemaDeclaration (name expression : Text) : Text :=
  "export const " ++ name ++ "Schema = " ++ expression ++ ";"

def typeAlias (name : Text) : Text :=
  "export type " ++ name ++ "Type = Static<typeof " ++ name ++ "Schema>;"

/-- The text that a schema becomes when its first line is indented by `indent`. -/
def ofSchema (indent : Text) (s : Schema Json) : Text := (Expr.ofSchema s).render indent

def declarations (name : Text) (s : Schema Json) : Text :=
  schemaDeclaration name (ofSchema [] s) ++ "\n\n" ++ typeAlias name

end CatalogTypes.TypeBox
