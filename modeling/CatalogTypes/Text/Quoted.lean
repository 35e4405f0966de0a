import CatalogTypes.Unicode.Printable

/-! # Quoted texts

Messages show a text between quotes, on one line and with every unprintable code point escaped.
Single quotes are preferred; double quotes are used for a text that has single quotes only.
-/
namespace CatalogTypes.Text
open Unicode

def shownCodePoint (quote : CodePoint) (c : CodePoint) : Text :=
  if c = quote ∨ c = .backslash then [.backslash, c]
  else if c = '\t' then "\\t"
  else if c = '\n' then "\\n"
  else if c = '\r' then "\\r"
  else if isUnprintable c then
    if c.val < 0x100 then "\\x" ++ hex 2 c.val
    else if c.val < 0x10000 then "\\u" ++ hex 4 c.val
    else "\\U" ++ hex 8 c.val
  else [c]

def quoteFor (t : Text) : CodePoint :=
  if t.contains .apostrophe && !t.contains .quotationMark then .quotationMark else .apostrophe

def quoted (t : Text) : Text :=
  let quote := quoteFor t
  quote :: t.flatMap (shownCodePoint quote) ++ [quote]

end CatalogTypes.Text
