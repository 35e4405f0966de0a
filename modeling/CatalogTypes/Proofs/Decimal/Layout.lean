import CatalogTypes.Decimal.Layout
import CatalogTypes.Proofs.Text.Digits

/-! # Written doubles

A double is written with letters, digits, points and signs only, so it is one word for whoever reads
it.
-/
namespace CatalogTypes

/-- A code point of a numeral, or of the name of a number. -/
def CodePoint.IsNumeric (c : CodePoint) : Prop := c.isAlphanumeric ∨ c = '.' ∨ c = '+' ∨ c = '-'

instance (c : CodePoint) : Decidable c.IsNumeric := inferInstanceAs (Decidable (_ ∨ _))

def Text.IsNumeric (t : Text) : Prop := ∀ c ∈ t, c.IsNumeric

instance (t : Text) : Decidable t.IsNumeric := List.decidableBAll CodePoint.IsNumeric t

namespace Text
variable {s t : Text}

theorem IsNumeric.append (hs : s.IsNumeric) (ht : t.IsNumeric) : (s ++ t).IsNumeric :=
  List.forall_mem_append.mpr ⟨hs, ht⟩

theorem IsNumeric.take (h : t.IsNumeric) (n : Nat) : IsNumeric (t.take n) :=
  fun c hc => h c (List.mem_of_mem_take hc)

theorem IsNumeric.drop (h : t.IsNumeric) (n : Nat) : IsNumeric (t.drop n) :=
  fun c hc => h c (List.mem_of_mem_drop hc)

theorem isNumeric_zeros (n : Nat) : IsNumeric (List.replicate n ('0' : CodePoint)) := by
  intro c hc
  rw [List.eq_of_mem_replicate hc]
  decide

theorem isNumeric_ofNat (n : Nat) : (ofNat n).IsNumeric := by
  intro c hc
  simp [CodePoint.IsNumeric, CodePoint.isAlphanumeric, isDigit_of_mem_ofNat hc]

theorem isNumeric_ofInt (n : Int) : (ofInt n).IsNumeric := by
  obtain ⟨m, _, hm⟩ | ⟨m, _, hm⟩ := ofInt_cases n
  · exact hm ▸ isNumeric_ofNat m
  · exact hm ▸ IsNumeric.append (s := text "-") (by decide) (isNumeric_ofNat (m + 1))

end Text

namespace Binary64
open Text
variable {digits : Text}

theorem isNumeric_positional (h : digits.IsNumeric) (point : Int) :
    (positional digits point).IsNumeric := by
  have hzero : (text "0.").IsNumeric := by decide
  have hpoint : (text ".").IsNumeric := by decide
  have htail : (text ".0").IsNumeric := by decide
  unfold positional
  simp only
  split
  · exact (hzero.append (isNumeric_zeros _)).append h
  split
  · exact (h.append (isNumeric_zeros _)).append htail
  · exact ((h.take _).append hpoint).append (h.drop _)

theorem isNumeric_scientific (h : digits.IsNumeric) (point : Int) :
    (scientific digits point).IsNumeric := by
  have hpoint : (text ".").IsNumeric := by decide
  have hzero : (text "0").IsNumeric := by decide
  have hfraction : Text.IsNumeric (if digits.length = 1 then [] else text "." ++
        digits.drop 1) := by
    split
    · exact List.forall_mem_nil _
    · exact hpoint.append (h.drop 1)
  have hsign : (text (if point - 1 < 0 then "-" else "+")).IsNumeric := by
    split <;> decide
  have hexponent {written : Text} (hw : written.IsNumeric) :
      Text.IsNumeric (if written.length = 1 then text "0" ++ written else written) := by
    split
    · exact hzero.append hw
    · exact hw
  have hmark : (text "e").IsNumeric := by decide
  exact ((((h.take 1).append hfraction).append hmark).append hsign).append
    (hexponent (isNumeric_ofNat _))

/-- A double is written with numeric code points if its special values are. -/
theorem isNumeric_render {names : SpecialNames} (hi : names.infinity.IsNumeric)
    (hn : names.nan.IsNumeric) (x : Binary64) : (x.render names).IsNumeric := by
  have hminus : (text "-").IsNumeric := by decide
  have hsigned {written : Text} (hw : written.IsNumeric) (negative : Bool) :
      Text.IsNumeric (if negative then text "-" ++ written else written) := by
    split
    · exact hminus.append hw
    · exact hw
  cases x with
  | nan => exact hn
  | infinity negative => exact hsigned hi negative
  | finite negative m e =>
    refine hsigned ?_ negative
    split
    · decide
    · unfold layOut
      simp only
      split
      · exact isNumeric_positional (isNumeric_ofNat _) _
      · exact isNumeric_scientific (isNumeric_ofNat _) _

end Binary64
end CatalogTypes
