import CatalogTypes.Proofs.Identifier.Names
import CatalogTypes.Proofs.Unicode.Marks

/-! # What is left of a name

Each code point leaves its own letters and digits, whatever stands beside it, and a mark leaves
nothing. What is left of a joined name is therefore joined as well, and marks can be put
anywhere into a name.
-/
namespace CatalogTypes.Identifier
open Unicode

/-- One text is another with marks put in at any places. -/
inductive Marked : Text → Text → Prop where
  | nil : Marked [] []
  | keep {s t : Text} (c : CodePoint) (h : Marked s t) : Marked (c :: s) (c :: t)
  | mark {s t : Text} {c : CodePoint} (hc : isMark c) (h : Marked s t) : Marked s (c :: t)

def leaves (c : CodePoint) : Text := (dropMarks (decompose c)).filter (·.isAlphanumeric)

theorem strip_eq_flatMap (t : Text) : strip t = t.flatMap leaves := by
  change (dropMarks (normalize t)).filter (·.isAlphanumeric) = _
  rw [dropMarks_normalize, List.filter_flatMap]
  rfl

theorem strip_append (s t : Text) : strip (s ++ t) = strip s ++ strip t := by
  simp only [strip_eq_flatMap, List.flatMap_append]

theorem leaves_of_isMark {c : CodePoint} (h : isMark c) : leaves c = [] := by
  refine List.filter_eq_nil_iff.mpr fun d hd hda => ?_
  have hle := le_of_mem_decompose h (List.mem_filter.mp hd).1
  have hlt := lt_of_isAlphanumeric hda
  omega

theorem Marked.strip_eq {s t : Text} (h : Marked s t) : strip t = strip s := by
  simp only [strip_eq_flatMap]
  induction h with
  | nil => rfl
  | keep c _ ih => rw [List.flatMap_cons, List.flatMap_cons, ih]
  | mark hc _ ih => rw [List.flatMap_cons, leaves_of_isMark hc, List.nil_append, ih]

/-- A base is what is left of a name. The marker goes before it exactly if a digit would come first,
and the fallback stands for it exactly if nothing is left. -/
structure Base (left base : Text) : Prop where
  unnamed : base = unnamed ∧ base ≠ left ↔ left = []
  marked : base = marker :: left ↔ ∃ c ∈ left.head?, c.isDigit
  kept : base = left ↔ ∃ c ∈ left.head?, c.isDigit = false

theorem base_ofStripped (left : Text) : Base left (ofStripped left) := by
  have hnil : Identifier.unnamed ≠ [] := by decide
  cases left with
  | nil =>
    have hmarker : Identifier.unnamed ≠ [marker] := by decide
    exact ⟨by simp [ofStripped, hnil], by simp [ofStripped, hmarker], by simp [ofStripped, hnil]⟩
  | cons c rest =>
    cases hc : c.isDigit with
    | true =>
      have ho : ofStripped (c :: rest) = marker :: c :: rest := by simp [ofStripped, hc]
      have hne : marker :: c :: rest ≠ Identifier.unnamed :=
        fun h => absurd (List.cons.inj h).1 (by decide)
      rw [ho]
      exact ⟨by simp [hne], by simp [hc], by simp [hc]⟩
    | false =>
      have ho : ofStripped (c :: rest) = c :: rest := by simp [ofStripped, hc]
      rw [ho]
      exact ⟨by simp, by simp [hc], by simp [hc]⟩

end CatalogTypes.Identifier
