import Mathlib.Data.List.TakeWhile
import CatalogTypes.Proofs.Text.Pieces
import CatalogTypes.Text.Lines
import CatalogTypes.Text.Utf8

/-! # Plain texts

A code point of ASCII is one byte, and the byte is read as the code point again. A text of them is
thus read back from its bytes, and it has no line endings to unify if no carriage return is in it.
-/
namespace CatalogTypes

/-- A code point of ASCII that is no carriage return. -/
def CodePoint.IsPlain (c : CodePoint) : Prop := c.val < 0x80 ∧ c ≠ '\r'

instance (c : CodePoint) : Decidable c.IsPlain := inferInstanceAs (Decidable (_ ∧ _))

def Text.IsPlain (t : Text) : Prop := ∀ c ∈ t, c.IsPlain

instance (t : Text) : Decidable t.IsPlain := List.decidableBAll CodePoint.IsPlain t

variable {t : Text}

namespace Text

theorem IsPlain.append {s : Text} (hs : s.IsPlain) (ht : t.IsPlain) : (s ++ t).IsPlain :=
  List.forall_mem_append.mpr ⟨hs, ht⟩

theorem isPlain_lines {parts : List Text} (h : ∀ part ∈ parts, part.IsPlain) :
    (lines parts).IsPlain :=
  intercalate_induction (motive := IsPlain) (List.forall_mem_nil _) (fun _ _ => IsPlain.append)
    (by decide) h

end Text

namespace Utf8

theorem encodeScalar_of_isPlain {c : CodePoint} (h : c.IsPlain) :
    encodeScalar c = [UInt8.ofNat c.val] := by
  rw [encodeScalar, if_pos h.1]

theorem encode_of_isPlain (h : t.IsPlain) : encode t = .ok (t.map fun c => UInt8.ofNat c.val) := by
  have hs : ∀ c ∈ t, (!c.isSurrogate) = true := by
    intro c hc
    have hv := (h c hc).1
    simp only [CodePoint.isSurrogate, Bool.not_eq_true', Bool.and_eq_false_iff,
      decide_eq_false_iff_not]
    omega
  have htake : t.takeWhile (!·.isSurrogate) = t := List.takeWhile_eq_self_iff.mpr hs
  have hdrop : t.dropWhile (!·.isSurrogate) = [] := List.dropWhile_eq_nil_iff.mpr hs
  have hall : encodeAll t = t.map fun c => UInt8.ofNat c.val := by
    clear hs htake hdrop
    induction t with
    | nil => rfl
    | cons c t ih =>
      rw [encodeAll, List.flatMap_cons, encodeScalar_of_isPlain (h c List.mem_cons_self)]
      exact congrArg _ (ih fun d hd => h d (List.mem_cons_of_mem _ hd))
  rw [encode, htake, hdrop, hall]

theorem character_of_isPlain {c : CodePoint} (h : c.IsPlain) (rest : Bytes) :
    character (UInt8.ofNat c.val) rest = .ok (c, 1) := by
  have hv : (UInt8.ofNat c.val).toNat = c.val := by
    have hc := h.1
    rw [UInt8.toNat_ofNat']
    omega
  unfold character
  rw [hv, if_pos h.1, Fin.ofNat_val_eq_self]

theorem decodeFrom_of_isPlain (h : t.IsPlain) (done : Text) (position : Nat) :
    decodeFrom done position 0 (t.map fun c => UInt8.ofNat c.val) = .ok (done.reverse ++ t) := by
  induction t generalizing done position with
  | nil => simp [decodeFrom]
  | cons c t ih =>
    rw [List.map_cons, decodeFrom, character_of_isPlain (h c List.mem_cons_self)]
    simp only [Nat.sub_self]
    rw [ih fun d hd => h d (List.mem_cons_of_mem _ hd), List.reverse_cons, List.append_assoc,
      List.singleton_append]

theorem decode_of_isPlain (h : t.IsPlain) : decode (t.map fun c => UInt8.ofNat c.val) = .ok t :=
  decodeFrom_of_isPlain h [] 0

end Utf8

theorem Text.IsPlain.unifyLineEndings_eq (h : t.IsPlain) : t.unifyLineEndings = t := by
  induction t with
  | nil => rfl
  | cons c t ih =>
    have hc := (h c List.mem_cons_self).2
    unfold unifyLineEndings
    rw [if_neg hc, ih fun d hd => h d (List.mem_cons_of_mem _ hd)]

end CatalogTypes
