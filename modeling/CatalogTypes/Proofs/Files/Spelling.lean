import CatalogTypes.Proofs.Files.Paths

/-! # Spellings of a path

The same path can be spelled in many ways: separators may be repeated, single points put in, and
a separator added at the end. Its text is one of them, its normal spelling, and reading that
gives the path again.
-/
namespace CatalogTypes

namespace Path
open Text

structure IsPart (part : Text) : Prop where
  ne_nil : part ≠ []
  ne_point : part ≠ text "."
  not_mem : ('/' : CodePoint) ∉ part

def Tidy (p : Path) : Prop := ∀ part ∈ p.parts, IsPart part

theorem tidy_ofText (t : Text) : (ofText t).Tidy := by
  intro part h
  obtain ⟨hs, hp⟩ := List.mem_filter.mp h
  simp only [Bool.and_eq_true, Bool.not_eq_true', List.isEmpty_eq_false_iff,
    decide_eq_true_eq] at hp
  exact ⟨hp.1, hp.2, not_mem_of_mem_split hs⟩

variable {p q : Path}

theorem Tidy.parent (h : p.Tidy) : p.parent.Tidy :=
  fun part hp => h part (List.dropLast_subset _ hp)

theorem Tidy.ancestors (h : p.Tidy) (hq : q ∈ p.ancestors) : q.Tidy := by
  unfold Path.ancestors at hq
  generalize p.parts.length = n at hq
  induction n generalizing p with
  | zero => cases hq
  | succ n ih =>
    rcases List.mem_cons.mp hq with rfl | hq
    · exact h.parent
    · exact ih h.parent hq

theorem anchorOf_append (anchor : Anchor) {t : Text} (ht : Ends (· = ('/' : CodePoint)) t) :
    anchorOf (anchor.text ++ t) = anchor := by
  have htake : (anchor.text ++ t).takeWhile (· = ('/' : CodePoint)) = anchor.text :=
    takeWhile_append_of_ends (fun c hc => decide_eq_true (eq_slash_of_mem_text hc)) ht
  rw [anchorOf, htake]
  cases anchor <;> rfl

theorem filter_split_append (anchor : Anchor) (t : Text) :
    ((anchor.text ++ t).split '/').filter (fun part => !part.isEmpty && part ≠ text ".") =
      (t.split '/').filter (fun part => !part.isEmpty && part ≠ text ".") := by
  have hslash (t : Text) : split '/' (('/' : CodePoint) :: t) = [] :: split '/' t := if_pos rfl
  cases anchor with
  | relative => rfl
  | root =>
    change (split '/' (('/' : CodePoint) :: t)).filter _ = _
    rw [hslash]
    rfl
  | doubleRoot =>
    change (split '/' (('/' : CodePoint) :: ('/' : CodePoint) :: t)).filter _ = _
    rw [hslash, hslash]
    rfl

theorem Tidy.ofText_toText (h : p.Tidy) : ofText p.toText = p := by
  obtain ⟨anchor, parts⟩ := p
  cases parts with
  | nil => cases anchor <;> rfl
  | cons part parts =>
    have hbody : toText ⟨anchor, part :: parts⟩ = anchor.text ++ List.intercalate (text "/")
        (part :: parts) :=
      if_neg (by simp [here])
    have hends : Ends (· = ('/' : CodePoint)) (List.intercalate (text "/") (part :: parts)) := by
      obtain ⟨c, rest, rfl⟩ := List.exists_cons_of_ne_nil (h part List.mem_cons_self).ne_nil
      have hc : c ≠ '/' := fun hc => (h _ List.mem_cons_self).not_mem (hc ▸ List.mem_cons_self)
      rw [intercalate_cons, List.cons_append]
      exact ends_cons (decide_eq_false hc) _
    have hsplit : split '/' (List.intercalate (text "/") (part :: parts)) = part :: parts :=
      split_intercalate (List.cons_ne_nil part parts) fun piece hp => (h piece hp).not_mem
    rw [hbody, ofText, anchorOf_append anchor hends, filter_split_append, hsplit,
      List.filter_eq_self.mpr]
    intro piece hp
    simp [(h piece hp).ne_nil, (h piece hp).ne_point]

end Path
end CatalogTypes
