import CatalogTypes.Proofs.Unicode.Ascii

/-! # Normal forms without their marks

Normalization moves nothing but marks. Without them a normal form is made of what each code point is
decomposed into, one after the other, and a mark leaves no ASCII in it.
-/
namespace CatalogTypes.Unicode

def dropMarks (t : Text) : Text := t.filter (!isMark ·)

theorem dropMarks_append (s t : Text) : dropMarks (s ++ t) = dropMarks s ++ dropMarks t :=
  List.filter_append s t

theorem dropMarks_cons_of_isMark {c : CodePoint} (h : isMark c) (t : Text) :
    dropMarks (c :: t) = dropMarks t :=
  List.filter_cons_of_neg (by simp [h])

/-- A code point passes marks only, on its way to its place. -/
theorem dropMarks_insertMark (c : CodePoint) (t : Text) :
    dropMarks (insertMark c t) = dropMarks (c :: t) := by
  induction t with
  | nil => rfl
  | cons d t ih =>
    by_cases h : isMark d ∧ combiningClass d < combiningClass c
    · rw [insertMark, if_pos h, dropMarks_cons_of_isMark h.1, ih]
      change _ = dropMarks ([c] ++ d :: t)
      rw [dropMarks_append, dropMarks_cons_of_isMark h.1, ← dropMarks_append, List.singleton_append]
    · rw [insertMark, if_neg h]

theorem dropMarks_orderMarks (t : Text) : dropMarks (orderMarks t) = dropMarks t := by
  induction t with
  | nil => rfl
  | cons c t ih =>
    calc dropMarks (orderMarks (c :: t))
        = dropMarks ([c] ++ orderMarks t) := dropMarks_insertMark c (orderMarks t)
      _ = dropMarks [c] ++ dropMarks t := by rw [dropMarks_append, ih]
      _ = dropMarks (c :: t) := (dropMarks_append [c] t).symm

/-- Without marks, a text is normalized one code point at a time. -/
theorem dropMarks_normalize (t : Text) :
    dropMarks (normalize t) = t.flatMap fun c => dropMarks (decompose c) := by
  rw [normalize, dropMarks_orderMarks, dropMarks, List.filter_flatMap]
  rfl

theorem bounds_of_mem_hangulParts {index p : Nat} (hi : index < 11172) (h : p ∈ hangulParts index) :
    0x80 ≤ p ∧ p < 0x110000 := by
  simp only [hangulParts, leadingBase, vowelBase, trailingBase] at h
  split at h <;> simp only [List.mem_append, List.mem_cons, List.not_mem_nil, or_false] at h <;>
    omega

/-- These ranges hold every code point that is decomposed into ASCII, and no mark. -/
def basicRanges : List (Nat × Nat) :=
  [(0, 0x2FF), (0x370, 0x482), (0x1E00, 0x20CF), (0x20F1, 0x2CEE)]

theorem not_inRanges_of_isMark {c : CodePoint} (h : isMark c) : inRanges basicRanges c = false := by
  have hall : classTable.all (fun e => basicRanges.all fun r => e.2.1 < r.1 || r.2 < e.1) =
      true := by decide +kernel
  cases hf : classTable.find? (fun e => e.1 ≤ c.val && c.val ≤ e.2.1) with
  | none =>
    rw [isMark, combiningClass, hf] at h
    cases h
  | some e =>
    have he := List.find?_some hf
    have hr := List.all_eq_true.mp (List.all_eq_true.mp hall e (List.mem_of_find?_eq_some hf))
    rw [inRanges, List.any_eq_false]
    intro r hmem
    specialize hr r hmem
    simp only [Bool.and_eq_true, Bool.or_eq_true, decide_eq_true_eq] at he hr ⊢
    omega

/-- A mark has no ASCII in its decomposition. -/
theorem le_of_mem_decompose {c d : CodePoint} (h : isMark c) (hd : d ∈ decompose c) :
    0x80 ≤ d.val := by
  have hall : decompositionTable.all (fun e => e.2.all (fun p => 0x80 ≤ p % 0x110000) ||
      basicRanges.any fun r => r.1 ≤ e.1 && e.1 ≤ r.2) = true := by decide +kernel
  unfold decompose at hd
  split at hd
  next hangul =>
    obtain ⟨p, hp, rfl⟩ := List.mem_map.mp hd
    obtain ⟨hle, hlt⟩ := bounds_of_mem_hangulParts (by omega) hp
    rw [Fin.val_ofNat, Nat.mod_eq_of_lt hlt]
    exact hle
  · split at hd
    next parts hparts =>
      obtain ⟨before, after, htable, _⟩ := List.lookup_eq_some_iff.mp hparts
      have he := List.all_eq_true.mp hall (c.val, parts) (by rw [htable]; simp)
      have hbasic := not_inRanges_of_isMark h
      rw [inRanges] at hbasic
      rw [hbasic, Bool.or_false, List.all_eq_true] at he
      obtain ⟨p, hp, rfl⟩ := List.mem_map.mp hd
      exact of_decide_eq_true (he p hp)
    next =>
      cases List.mem_singleton.mp hd
      refine Nat.le_of_not_lt fun hlt => ?_
      rw [isMark_of_ascii hlt] at h
      cases h

end CatalogTypes.Unicode
