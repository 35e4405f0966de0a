import CatalogTypes.Unicode.Normalization

/-! # ASCII in normal form

Both tables begin above ASCII, so nothing in an ASCII text is decomposed or moved.
-/
namespace CatalogTypes.Unicode

theorem decompose_of_ascii {c : CodePoint} (h : c.val < 0x80) : decompose c = [c] := by
  have hall : decompositionTable.all (fun e => 0x80 ≤ e.1) = true := by decide +kernel
  have hl : decompositionTable.lookup c.val = none := by
    rw [List.lookup_eq_none_iff]
    intro e he
    have hk := List.all_eq_true.mp hall e he
    simp only [decide_eq_true_eq] at hk
    have hne : c.val ≠ e.1 := by omega
    simpa using hne
  have hh : ¬ (hangulBase ≤ c.val ∧ c.val < hangulBase + 11172) := by
    simp only [hangulBase]
    omega
  rw [decompose, if_neg hh, hl]

theorem isMark_of_ascii {c : CodePoint} (h : c.val < 0x80) : isMark c = false := by
  have hall : classTable.all (fun e => 0x80 ≤ e.1) = true := by decide +kernel
  have hf : classTable.find? (fun e => e.1 ≤ c.val && c.val ≤ e.2.1) = none := by
    rw [List.find?_eq_none]
    intro e he hc
    have hk := List.all_eq_true.mp hall e he
    simp only [decide_eq_true_eq, Bool.and_eq_true] at hk hc
    omega
  rw [isMark, combiningClass, hf]
  rfl

theorem flatMap_decompose_of_ascii {t : Text} (h : ∀ c ∈ t, c.val < 0x80) :
    t.flatMap decompose = t := by
  induction t with
  | nil => rfl
  | cons c t ih =>
    have hc := decompose_of_ascii (h c List.mem_cons_self)
    rw [List.flatMap_cons, hc, ih fun d hd => h d (List.mem_cons_of_mem _ hd),
      List.singleton_append]

theorem orderMarks_of_ascii {t : Text} (h : ∀ c ∈ t, c.val < 0x80) : orderMarks t = t := by
  induction t with
  | nil => rfl
  | cons c t ih =>
    have hr : ∀ d ∈ t, d.val < 0x80 := by
      intro d hd
      exact h d (List.mem_cons_of_mem _ hd)
    rw [orderMarks, List.foldr_cons, ← orderMarks, ih hr]
    cases t with
    | nil => rfl
    | cons d t =>
      have hm := isMark_of_ascii (hr d List.mem_cons_self)
      simp [insertMark, hm]

theorem normalize_of_ascii {t : Text} (h : ∀ c ∈ t, c.val < 0x80) : normalize t = t := by
  rw [normalize, flatMap_decompose_of_ascii h, orderMarks_of_ascii h]

end CatalogTypes.Unicode
