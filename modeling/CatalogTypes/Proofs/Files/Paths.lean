import CatalogTypes.Files.Path
import CatalogTypes.Proofs.Text.Pieces

/-! # Names below a path

A path is read name by name. One more name behind the text of a path leads to its child, whose
parent is the path again.
-/
namespace CatalogTypes

namespace Path
open Text
variable {p : Path} {name : Text}

def child (p : Path) (name : Text) : Path := ⟨p.anchor, p.parts ++ [name]⟩

theorem parent_child (p : Path) (name : Text) : (p.child name).parent = p := by
  rw [parent, child, List.dropLast_concat]

theorem child_ne_here (p : Path) (name : Text) : p.child name ≠ here := by
  intro h
  have hparts := congrArg Path.parts h
  simp [child, here] at hparts

theorem toText_child (hp : p.parts ≠ []) (name : Text) :
    (p.child name).toText = p.toText ++ "/" ++ name := by
  have hj (parts : List Text) (h : parts ≠ []) :
      List.intercalate (text "/") (parts ++ [name]) = List.intercalate (text "/") parts ++
        text "/" ++ name := by
    induction parts with
    | nil => exact absurd rfl h
    | cons part rest ih =>
      cases rest with
      | nil => simp [List.intercalate_cons_cons]
      | cons next rest =>
        have hr := ih (List.cons_ne_nil next rest)
        rw [List.cons_append, List.cons_append, List.intercalate_cons_cons, ← List.cons_append, hr,
          List.intercalate_cons_cons]
        simp
  have hn : p ≠ here := by
    rintro rfl
    exact hp rfl
  rw [toText, if_neg (child_ne_here p name), toText, if_neg hn, child, hj p.parts hp]
  simp

theorem eq_slash_of_mem_text {anchor : Anchor} {c : CodePoint} (h : c ∈ anchor.text) : c = '/' := by
  revert h
  cases anchor with
  | relative => simp [Anchor.text]
  | root => exact List.mem_singleton.mp
  | doubleRoot => exact fun h => (List.mem_cons.mp h).elim id List.mem_singleton.mp

theorem mem_toText_child {c : CodePoint} (h : c ∈ (p.child name).toText) :
    c ∈ p.toText ∨ c = '/' ∨ c ∈ name := by
  by_cases hp : p.parts = []
  · have ht : (p.child name).toText = p.anchor.text ++ name := by
      rw [toText, if_neg (child_ne_here p name), child, hp]
      simp [List.intercalate]
    rw [ht, List.mem_append] at h
    exact .inr (h.imp_left eq_slash_of_mem_text)
  · rw [toText_child hp, List.append_assoc, List.mem_append, List.mem_append] at h
    exact h.imp_right (Or.imp_left List.mem_singleton.mp)

theorem anchorOf_cons {c : CodePoint} (hc : c ≠ '/') (t : Text) :
    anchorOf (c :: t) = .relative := by
  have ht : (c :: t).takeWhile (· = ('/' : CodePoint)) = [] :=
    Ends.takeWhile_eq_nil (ends_cons (decide_eq_false hc) t)
  rw [anchorOf, ht]
  rfl

/-- A text that opens with no separator is a relative path, and a name behind it names a child. -/
theorem ofText_append {c : CodePoint} (hc : c ≠ '/') (t : Text) (hs : ('/' : CodePoint) ∉ name)
    (hn : name ≠ []) (hh : name ≠ text ".") :
    ofText (c :: t ++ "/" ++ name) = (ofText (c :: t)).child name := by
  have ht : c :: t ++ "/" ++ name = (c :: t) ++ ('/' : CodePoint) :: name :=
    List.append_cons _ _ _ |>.symm
  have hname : [name].filter (fun part => !part.isEmpty && part ≠ text ".") = [name] := by
    simp [hn, hh]
  rw [ht, ofText, split_append, split_of_not_mem hs, List.filter_append, hname, List.cons_append,
    anchorOf_cons hc, ofText, anchorOf_cons hc, child]

end Path
end CatalogTypes
