import CatalogTypes.Text

/-! # UTF-8

Bytes are read strictly: overlong forms, surrogates and values past the last code point are
refused, and a refusal names the bytes that no character can begin with or continue. Only in
names, of files and of variables, may any bytes stand: a byte that takes no part in a character
is loose, and a low surrogate stands for it.
-/
namespace CatalogTypes.Utf8

abbrev Bytes := List UInt8

inductive Flaw where
  | invalidStart
  | invalidContinuation
  | unexpectedEnd
  deriving DecidableEq, Repr

def Flaw.reason : Flaw → Text
  | .invalidStart => "invalid start byte"
  | .invalidContinuation => "invalid continuation byte"
  | .unexpectedEnd => "unexpected end of data"

/-- Bytes that cannot be read: the first of them, where it stands and how many are refused. -/
structure DecodeError where
  flaw : Flaw
  byte : UInt8
  position : Nat
  count : Nat
  deriving DecidableEq, Repr

def DecodeError.message (e : DecodeError) : Text :=
  let place : Text :=
    if e.count = 1 then
      "byte 0x" ++ Text.hex 2 e.byte.toNat ++ " in position " ++ Text.ofNat e.position
    else "bytes in position " ++ Text.ofNat e.position ++ "-" ++
      Text.ofNat (e.position + e.count - 1)
  "'utf-8' codec can't decode " ++ place ++ ": " ++ e.flaw.reason

/-- A first byte's share of the code point, and the bounds of the second byte and the number of
bytes after that one. -/
structure Lead where
  bits : Nat
  low : Nat
  high : Nat
  more : Nat

def lead? (b : Nat) : Option Lead :=
  if 0xC2 ≤ b && b ≤ 0xDF then some ⟨b - 0xC0, 0x80, 0xBF, 0⟩
  else if b = 0xE0 then some ⟨0, 0xA0, 0xBF, 1⟩
  else if b = 0xED then some ⟨0xD, 0x80, 0x9F, 1⟩
  else if 0xE1 ≤ b && b ≤ 0xEF then some ⟨b - 0xE0, 0x80, 0xBF, 1⟩
  else if b = 0xF0 then some ⟨0, 0x90, 0xBF, 2⟩
  else if 0xF1 ≤ b && b ≤ 0xF3 then some ⟨b - 0xF0, 0x80, 0xBF, 2⟩
  else if b = 0xF4 then some ⟨4, 0x80, 0x8F, 2⟩
  else none

/-- The remaining bytes of a character, `seen` of its bytes having been read. -/
def continued (bits seen : Nat) : (more : Nat) → Bytes → Except (Flaw × Nat) (CodePoint × Nat)
  | 0, _ => .ok (Fin.ofNat 0x110000 bits, seen)
  | _ + 1, [] => .error (.unexpectedEnd, seen)
  | more + 1, b :: rest =>
    if 0x80 ≤ b.toNat && b.toNat ≤ 0xBF then
      continued (bits * 64 + (b.toNat - 0x80)) (seen + 1) more rest
    else .error (.invalidContinuation, seen)

def character (b : UInt8) (rest : Bytes) : Except (Flaw × Nat) (CodePoint × Nat) :=
  if b.toNat < 0x80 then .ok (Fin.ofNat 0x110000 b.toNat, 1)
  else match lead? b.toNat, rest with
    | none, _ => .error (.invalidStart, 1)
    | some _, [] => .error (.unexpectedEnd, 1)
    | some l, c :: rest' =>
      if l.low ≤ c.toNat && c.toNat ≤ l.high then
        continued (l.bits * 64 + (c.toNat - 0x80)) 2 l.more rest'
      else .error (.invalidContinuation, 1)

/-- Reads bytes from a position on, skipping those that belong to a character already read. -/
def decodeFrom (done : Text) (position : Nat) : (skip : Nat) → Bytes → Except DecodeError Text
  | _, [] => .ok done.reverse
  | skip + 1, _ :: rest => decodeFrom done (position + 1) skip rest
  | 0, b :: rest =>
    match character b rest with
    | .ok (c, size) => decodeFrom (c :: done) (position + 1) (size - 1) rest
    | .error (flaw, count) => .error ⟨flaw, b, position, count⟩

def decode (bytes : Bytes) : Except DecodeError Text := decodeFrom [] 0 0 bytes

/-- A run of surrogates, which UTF-8 has no bytes for. -/
structure EncodeError where
  first : CodePoint
  position : Nat
  count : Nat
  deriving DecidableEq, Repr

def EncodeError.message (e : EncodeError) : Text :=
  let place : Text :=
    if e.count = 1 then
      "character '\\u" ++ Text.hex 4 e.first.val ++ "' in position " ++ Text.ofNat e.position
    else "characters in position " ++ Text.ofNat e.position ++ "-" ++
      Text.ofNat (e.position + e.count - 1)
  "'utf-8' codec can't encode " ++ place ++ ": surrogates not allowed"

def encodeScalar (c : CodePoint) : Bytes :=
  let n := c.val
  let tail (shift : Nat) : UInt8 := UInt8.ofNat (0x80 + n >>> shift % 64)
  if n < 0x80 then [UInt8.ofNat n]
  else if n < 0x800 then [UInt8.ofNat (0xC0 + n >>> 6), tail 0]
  else if n < 0x10000 then [UInt8.ofNat (0xE0 + n >>> 12), tail 6, tail 0]
  else [UInt8.ofNat (0xF0 + n >>> 18), tail 12, tail 6, tail 0]

def encodeAll (t : Text) : Bytes := t.flatMap encodeScalar

/-- Encodes a text without surrogates; the first run of surrogates is reported otherwise. -/
def encode (t : Text) : Except EncodeError Bytes :=
  let fine := t.takeWhile (!·.isSurrogate)
  match t.dropWhile (!·.isSurrogate) with
  | [] => .ok (encodeAll fine)
  | c :: rest => .error ⟨c, fine.length, 1 + (rest.takeWhile (·.isSurrogate)).length⟩

def isLoose (c : CodePoint) : Bool := 0xDC80 ≤ c.val && c.val ≤ 0xDCFF

def looseByte (b : UInt8) : CodePoint := Fin.ofNat 0x110000 (0xDC00 + b.toNat)

def nameBytes (t : Text) : Bytes :=
  t.flatMap fun c => if isLoose c then [UInt8.ofNat (c.val - 0xDC00)] else encodeScalar c

/-- Reads the bytes of a name, skipping those that belong to a character already read. -/
def nameFrom : (skip : Nat) → Bytes → Text
  | _, [] => []
  | skip + 1, _ :: rest => nameFrom skip rest
  | 0, b :: rest =>
    match character b rest with
    | .ok (c, size) => c :: nameFrom (size - 1) rest
    | .error _ => looseByte b :: nameFrom 0 rest

/-- The spelling under which a name is read back: loose bytes that make up a character become it. -/
def settled (name : Text) : Text := if name.any isLoose then nameFrom 0 (nameBytes name) else name

theorem settled_eq_self {name : Text} (h : name.any isLoose = false) : settled name = name := by
  simp [settled, h]

end CatalogTypes.Utf8
