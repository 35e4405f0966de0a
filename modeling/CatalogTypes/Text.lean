/-! # Text

A text is a list of code points. A surrogate may stand alone in it, since a JSON
string can escape one half of a pair, so a text is more than a list of characters.
-/
namespace CatalogTypes

abbrev CodePoint := Fin 0x110000
abbrev Text := List CodePoint

instance CodePoint.instNeZero : @NeZero Nat Zero.ofOfNat0 0x110000 := Nat.instNeZeroSucc

def CodePoint.ofChar (c : Char) : CodePoint :=
  ⟨c.toNat, by
    have h : c.val.toNat = c.toNat := rfl
    rcases c.valid with h | h <;> omega⟩

instance : Coe Char CodePoint := ⟨CodePoint.ofChar⟩

def text (s : String) : Text := s.toList.map CodePoint.ofChar

instance : Coe String Text := ⟨text⟩

namespace CodePoint

def quotationMark : CodePoint := 0x22
def apostrophe : CodePoint := 0x27
def backslash : CodePoint := 0x5C

def isDigit (c : CodePoint) : Bool := 0x30 ≤ c.val && c.val ≤ 0x39

def isLetter (c : CodePoint) : Bool :=
  (0x41 ≤ c.val && c.val ≤ 0x5A) || (0x61 ≤ c.val && c.val ≤ 0x7A)

def isAlphanumeric (c : CodePoint) : Bool := c.isLetter || c.isDigit

def isHighSurrogate (c : CodePoint) : Bool := 0xD800 ≤ c.val && c.val ≤ 0xDBFF

def isLowSurrogate (c : CodePoint) : Bool := 0xDC00 ≤ c.val && c.val ≤ 0xDFFF

def isSurrogate (c : CodePoint) : Bool := 0xD800 ≤ c.val && c.val ≤ 0xDFFF

def ofSurrogates (high low : CodePoint) : CodePoint :=
  Fin.ofNat 0x110000 (0x10000 + (high.val - 0xD800) * 0x400 + (low.val - 0xDC00))

def hexDigit? (c : CodePoint) : Option Nat :=
  if c.isDigit then some (c.val - 0x30)
  else if 0x61 ≤ c.val && c.val ≤ 0x66 then some (c.val - 0x61 + 10)
  else if 0x41 ≤ c.val && c.val ≤ 0x46 then some (c.val - 0x41 + 10)
  else none

end CodePoint

namespace Text

def ofNat (n : Nat) : Text := (Nat.toDigits 10 n).map CodePoint.ofChar

def ofInt : Int → Text
  | .ofNat n => ofNat n
  | .negSucc n => "-" ++ ofNat (n + 1)

/-- The last `width` hexadecimal digits of a number, in small letters. -/
def hex (width n : Nat) : Text :=
  (List.range width).reverse.map fun i => CodePoint.ofChar (Nat.digitChar (n >>> (4 * i) % 16))

def toNat (digits : Text) : Nat := digits.foldl (fun n c => 10 * n + (c.val - 0x30)) 0

def lines (parts : List Text) : Text := List.intercalate (text "\n") parts

/-- The pieces between the separators; there is always at least one piece. -/
def split (separator : CodePoint) : Text → List Text
  | [] => [[]]
  | c :: rest =>
    if c = separator then [] :: split separator rest
    else match split separator rest with
      | [] => [[c]]
      | piece :: pieces => (c :: piece) :: pieces

def after? : (opening : Text) → Text → Option Text
  | [], t => some t
  | _ :: _, [] => none
  | o :: opening, c :: t => if o = c then after? opening t else none

/-- The order by code points, a shorter text before its extensions. -/
def before : Text → Text → Bool
  | [], _ => true
  | _ :: _, [] => false
  | a :: s, b :: t => a.val < b.val || (a = b && before s t)

def insertSorted (t : Text) : List Text → List Text
  | [] => [t]
  | u :: rest => if t = u then u :: rest else if before t u then t :: u :: rest
      else u :: insertSorted t rest

/-- The texts of a list as a set: in order and each once. -/
def sortedSet (ts : List Text) : List Text := ts.foldr insertSorted []

theorem mem_insertSorted {t u : Text} {ts : List Text} :
    u ∈ insertSorted t ts ↔ u = t ∨ u ∈ ts := by
  induction ts with
  | nil => simp [insertSorted]
  | cons v rest ih =>
    unfold insertSorted
    split
    next h => simp [h]
    · split
      · simp
      · simp only [List.mem_cons, ih]
        exact or_left_comm

theorem mem_sortedSet {u : Text} {ts : List Text} : u ∈ sortedSet ts ↔ u ∈ ts := by
  induction ts with
  | nil => rfl
  | cons t rest ih =>
    simp only [sortedSet, List.foldr_cons, mem_insertSorted, List.mem_cons] at ih ⊢; rw [ih]

end Text
end CatalogTypes
