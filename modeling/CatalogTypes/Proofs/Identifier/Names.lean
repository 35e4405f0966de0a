import CatalogTypes.Identifier.Basic
import CatalogTypes.Proofs.Unicode.Ascii

/-! # Well-formed identifiers

An identifier is a letter and then letters and digits. Whatever a name is, the identifier made of
it is of this form, and a name of this form is its own identifier.
-/
namespace CatalogTypes.Identifier

/-- A letter and then letters and digits. -/
def WellFormed (t : Text) : Prop :=
  ∃ c rest, t = c :: rest ∧ c.isLetter ∧ ∀ d ∈ rest, d.isAlphanumeric

theorem isAlphanumeric_of_isLetter {c : CodePoint} (h : c.isLetter) : c.isAlphanumeric := by
  rw [CodePoint.isAlphanumeric, h, Bool.true_or]

theorem isAlphanumeric_of_isDigit {c : CodePoint} (h : c.isDigit) : c.isAlphanumeric := by
  rw [CodePoint.isAlphanumeric, h, Bool.or_true]

theorem WellFormed.isAlphanumeric {t : Text} (h : WellFormed t) : ∀ c ∈ t, c.isAlphanumeric := by
  obtain ⟨c, rest, rfl, hc, hr⟩ := h
  intro d hd
  rcases List.mem_cons.mp hd with rfl | hd
  · exact isAlphanumeric_of_isLetter hc
  · exact hr d hd

theorem wellFormed_ofStripped {t : Text} (h : ∀ c ∈ t, c.isAlphanumeric) :
    WellFormed (ofStripped t) := by
  cases t with
  | nil => exact ⟨'U', "nnamed", rfl, by decide, List.all_eq_true.mp (by rfl)⟩
  | cons c rest =>
    cases hc : c.isDigit with
    | true => exact ⟨marker, c :: rest, by simp [ofStripped, hc], by decide, h⟩
    | false =>
      refine ⟨c, rest, by simp [ofStripped, hc], ?_, fun d hd => h d (List.mem_cons_of_mem _ hd)⟩
      simpa [CodePoint.isAlphanumeric, hc] using h c List.mem_cons_self

theorem wellFormed_ofName (name : Text) : WellFormed (ofName name) :=
  wellFormed_ofStripped fun _ hc => (List.mem_filter.mp hc).2

theorem lt_of_isAlphanumeric {c : CodePoint} (h : c.isAlphanumeric) : c.val < 0x80 := by
  simp only [CodePoint.isAlphanumeric, CodePoint.isLetter, CodePoint.isDigit, Bool.or_eq_true,
    Bool.and_eq_true, decide_eq_true_eq] at h
  omega

theorem strip_of_isAlphanumeric {t : Text} (h : ∀ c ∈ t, c.isAlphanumeric) : strip t = t := by
  have ha : ∀ c ∈ t, c.val < 0x80 := by
    intro c hc
    exact lt_of_isAlphanumeric (h c hc)
  have hm : t.filter (!Unicode.isMark ·) = t := by
    rw [List.filter_eq_self]
    intro c hc
    rw [Unicode.isMark_of_ascii (ha c hc)]
    rfl
  rw [strip, Unicode.normalize_of_ascii ha, hm, List.filter_eq_self]
  exact h

theorem WellFormed.ofName_eq {t : Text} (h : WellFormed t) : ofName t = t := by
  obtain ⟨c, rest, rfl, hc, _⟩ := id h
  have hd : c.isDigit = false := by
    simp only [CodePoint.isLetter, CodePoint.isDigit, Bool.or_eq_true, Bool.and_eq_true,
      decide_eq_true_eq] at hc ⊢
    simp only [Bool.and_eq_false_iff, decide_eq_false_iff_not]
    omega
  rw [ofName, strip_of_isAlphanumeric h.isAlphanumeric, ofStripped, hd]
  rfl

theorem ofName_eq_self_iff {name : Text} : ofName name = name ↔ WellFormed name := by
  constructor
  · intro h
    have hw := wellFormed_ofName name
    rwa [h] at hw
  · exact WellFormed.ofName_eq

/-- The identifiers of names are all of the well-formed texts and no others. The names that are
their own identifiers are the same texts, so that an identifier is its own identifier. -/
theorem ofName_range_and_fixed_points :
    (∀ name, WellFormed (ofName name)) ∧ (∀ t, WellFormed t → ∃ name, ofName name = t) ∧
    (∀ name, ofName name = name ↔ WellFormed name) ∧ ∀ name, ofName (ofName name) = ofName name :=
  ⟨wellFormed_ofName, fun t ht => ⟨t, ht.ofName_eq⟩, fun _ => ofName_eq_self_iff,
    fun name => ofName_eq_self_iff.mpr (wellFormed_ofName name)⟩

end CatalogTypes.Identifier
