import CatalogTypes.Unicode.Blank

/-! # Lines

Three conventions meet here: files are read with every line ending turned into a line feed,
descriptions are cut at any Unicode line boundary, and lines lose their trailing blanks.
-/
namespace CatalogTypes.Text
open Unicode

def unifyLineEndings : Text → Text
  | [] => []
  | c :: rest =>
    if c = '\r' then
      match rest with
      | [] => ['\n']
      | d :: rest' =>
        if d = '\n' then '\n' :: unifyLineEndings rest' else '\n' :: unifyLineEndings (d :: rest')
    else c :: unifyLineEndings rest

/-- Does a code point end a line? A carriage return counts, and so do the separators of
information, the next-line control and the two Unicode separators. -/
def isLineBreak (c : CodePoint) : Bool :=
  (0x0A ≤ c.val && c.val ≤ 0x0D) || (0x1C ≤ c.val && c.val ≤ 0x1E) || c.val = 0x85
    || c.val = 0x2028 || c.val = 0x2029

def cutLines : Text → List Text
  | [] => []
  | c :: rest =>
    if isLineBreak c then [] :: cutLines rest
    else match cutLines rest with
      | [] => [[c]]
      | line :: more => (c :: line) :: more

/-- The lines of a text without their ends; a final line break opens no further line. -/
def splitLines (t : Text) : List Text := cutLines (unifyLineEndings t)

def lineEnds (t : Text) : Nat := (unifyLineEndings t).countP (· = ('\n' : CodePoint))

def trimRight (t : Text) : Text := (t.reverse.dropWhile isBlank).reverse

def trim (t : Text) : Text := trimRight (t.dropWhile isBlank)

end CatalogTypes.Text
