import CatalogTypes.Proofs.Text.Lines

/-! # White space at the end

A text is trimmed if it does not end in white space. What is put in front of a text stays in front
when white space is taken off the end, unless nothing of the text is left.
-/
namespace CatalogTypes.Text
open Unicode
variable {s t : Text}

def Trimmed (t : Text) : Prop := ∀ c ∈ t.getLast?, isBlank c = false

instance (t : Text) : Decidable t.Trimmed := Option.decidableForallMem _

theorem trimmed_trimRight (t : Text) : (trimRight t).Trimmed := by
  intro c hc
  rw [trimRight, List.getLast?_reverse] at hc
  have hfirst := List.head?_dropWhile_not isBlank t.reverse
  rw [Option.mem_def.mp hc] at hfirst
  exact hfirst

theorem Trimmed.dropWhile_reverse (h : s.Trimmed) : s.reverse.dropWhile isBlank = s.reverse := by
  refine Ends.dropWhile_eq_self fun c hc => h c ?_
  rwa [List.head?_reverse] at hc

/-- White space that ends a text is all behind what comes before, unless that ends in white space
and nothing else follows it. -/
theorem trimRight_append (h : trimRight t = [] → s.Trimmed) :
    trimRight (s ++ t) = s ++ trimRight t := by
  rw [trimRight, List.reverse_append, List.dropWhile_append]
  split
  next he =>
    have ht : trimRight t = [] := by rw [trimRight, List.isEmpty_iff.mp he, List.reverse_nil]
    rw [(h ht).dropWhile_reverse, List.reverse_reverse, ht, List.append_nil]
  next => rw [List.reverse_append, List.reverse_reverse, trimRight]

theorem trimRight_cons_eq_nil {c : CodePoint} (hc : isBlank c) (ht : trimRight t = []) :
    trimRight (c :: t) = [] := by
  have hdrop : t.reverse.dropWhile isBlank = [] := List.reverse_eq_nil_iff.mp ht
  rw [trimRight, List.reverse_cons, List.dropWhile_append, hdrop]
  simp [hc]

theorem IsOneLine.trimRight (h : t.IsOneLine) : t.trimRight.IsOneLine := by
  intro hc
  have hmem := List.dropWhile_subset _ (List.mem_reverse.mp hc)
  exact h (List.mem_reverse.mp hmem)

end CatalogTypes.Text
