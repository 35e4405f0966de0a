import CatalogTypes.Proofs.Text.Pieces

/-! # Decimal numerals

A numeral is a run of digits that reads back as its number.
-/
namespace CatalogTypes.Text

theorem isDigit_ofChar {c : Char} (h : c.isDigit) : (CodePoint.ofChar c).isDigit := by
  simp only [Char.isDigit, Bool.and_eq_true, decide_eq_true_eq, UInt32.le_iff_toNat_le,
    ge_iff_le] at h
  simp only [CodePoint.isDigit, Bool.and_eq_true, decide_eq_true_eq]
  exact h

theorem isDigit_of_mem_ofNat {n : Nat} {c : CodePoint} (h : c ∈ ofNat n) : c.isDigit := by
  obtain ⟨d, hd, rfl⟩ := List.mem_map.mp h
  exact isDigit_ofChar (Nat.isDigit_of_mem_toDigits (by decide) (by decide) hd)

theorem ofNat_ne_nil (n : Nat) : ofNat n ≠ [] := by
  simp [ofNat, Nat.toDigits_ne_nil]

theorem toNat_ofNat (n : Nat) : toNat (ofNat n) = n := by
  rw [toNat, ofNat, List.foldl_map]
  exact (Nat.ofDigitChars_eq_foldl.symm).trans Nat.ofDigitChars_ten_toDigits

theorem ofNat_injective : Function.Injective ofNat := by
  intro m n h
  rw [← toNat_ofNat m, h, toNat_ofNat]

theorem ofNat_append_inj {m n : Nat} {t t' : Text} (ht : Ends CodePoint.isDigit t)
    (ht' : Ends CodePoint.isDigit t') (h : ofNat m ++ t = ofNat n ++ t') : m = n ∧ t = t' := by
  obtain ⟨hmn, ht⟩ :=
    run_append_inj (fun _ => isDigit_of_mem_ofNat) (fun _ => isDigit_of_mem_ofNat) ht ht' h
  exact ⟨ofNat_injective hmn, ht⟩

theorem ofInt_cases (n : Int) :
    (∃ m : Nat, n = m ∧ ofInt n = ofNat m) ∨
      ∃ m : Nat, n = -(m + 1 : Nat) ∧ ofInt n = ('-' : CodePoint) :: ofNat (m + 1) := by
  cases n with
  | ofNat m => exact .inl ⟨m, rfl, rfl⟩
  | negSucc m => exact .inr ⟨m, rfl, rfl⟩

theorem ofNat_append_ne_cons {n : Nat} {c : CodePoint} (hc : c.isDigit = false) (t t' : Text) :
    ofNat n ++ t ≠ c :: t' := by
  intro h
  cases hn : ofNat n with
  | nil => exact ofNat_ne_nil n hn
  | cons d rest =>
    have hd : d.isDigit := isDigit_of_mem_ofNat (n := n) (by simp [hn])
    rw [hn, List.cons_append, List.cons.injEq] at h
    rw [h.1, hc] at hd
    contradiction

theorem ofInt_append_inj {m n : Int} {t t' : Text} (ht : Ends CodePoint.isDigit t)
    (ht' : Ends CodePoint.isDigit t') (h : ofInt m ++ t = ofInt n ++ t') : m = n ∧ t = t' := by
  obtain ⟨a, ha, hm⟩ | ⟨a, ha, hm⟩ :=
    ofInt_cases m <;> obtain ⟨b, hb, hn⟩ | ⟨b, hb, hn⟩ := ofInt_cases n <;>
    rw [hm, hn] at h
  · obtain ⟨hab, hr⟩ := ofNat_append_inj ht ht' h
    exact ⟨by rw [ha, hb, hab], hr⟩
  · exact absurd h (ofNat_append_ne_cons (by decide) _ _)
  · exact absurd h.symm (ofNat_append_ne_cons (by decide) _ _)
  · obtain ⟨hab, hr⟩ := ofNat_append_inj ht ht' (List.cons.inj h).2
    exact ⟨by rw [ha, hb, hab], hr⟩

end CatalogTypes.Text
