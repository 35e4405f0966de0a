import CatalogTypes.Proofs.Decimal.Layout
import CatalogTypes.Text.Lines
import CatalogTypes.Text.Utf8

/-! # Texts that have bytes

A text has bytes if there is no surrogate in it. Whatever is made of such texts by cutting them up
and by joining them has bytes again.
-/
namespace CatalogTypes

/-- There is no surrogate in a text. -/
def Text.HasBytes (t : Text) : Prop := ∀ c ∈ t, c.isSurrogate = false

instance (t : Text) : Decidable t.HasBytes := List.decidableBAll _ t

theorem CodePoint.isSurrogate_eq_false_of_lt {c : CodePoint} (h : c.val < 0xD800) :
    c.isSurrogate = false := by
  simp only [CodePoint.isSurrogate, Bool.and_eq_false_iff, decide_eq_false_iff_not]
  omega

theorem CodePoint.isSurrogate_eq_false_of_isAlphanumeric {c : CodePoint} (h : c.isAlphanumeric) :
    c.isSurrogate = false := by
  apply CodePoint.isSurrogate_eq_false_of_lt
  simp only [CodePoint.isAlphanumeric, CodePoint.isLetter, CodePoint.isDigit, Bool.or_eq_true,
    Bool.and_eq_true, decide_eq_true_eq] at h
  omega

namespace Text
variable {s t : Text} {pieces : List Text}

theorem hasBytes_nil : HasBytes [] := List.forall_mem_nil _

theorem HasBytes.append (hs : s.HasBytes) (ht : t.HasBytes) : (s ++ t).HasBytes :=
  List.forall_mem_append.mpr ⟨hs, ht⟩

theorem HasBytes.flatMap {f : CodePoint → Text} (h : ∀ c ∈ t, (f c).HasBytes) :
    HasBytes (t.flatMap f) := by
  intro d hd
  obtain ⟨c, hc, hd⟩ := List.mem_flatMap.mp hd
  exact h c hc d hd

theorem hasBytes_intercalate (hs : s.HasBytes) (h : ∀ piece ∈ pieces, piece.HasBytes) :
    HasBytes (List.intercalate s pieces) :=
  intercalate_induction hasBytes_nil (fun _ _ => HasBytes.append) hs h

theorem IsNumeric.hasBytes (h : t.IsNumeric) : t.HasBytes := by
  intro c hc
  rcases h c hc with ha | rfl | rfl | rfl
  · exact CodePoint.isSurrogate_eq_false_of_isAlphanumeric ha
  · rfl
  · rfl
  · rfl

theorem HasBytes.unifyLineEndings (h : t.HasBytes) : t.unifyLineEndings.HasBytes := by
  have hfeed : CodePoint.isSurrogate '\n' = false := rfl
  fun_induction Text.unifyLineEndings t with
  | case1 => exact hasBytes_nil
  | case2 => exact List.forall_mem_singleton.mpr hfeed
  | case3 rest ih =>
    exact List.forall_mem_cons.mpr
      ⟨hfeed, ih (List.forall_mem_cons.mp (List.forall_mem_cons.mp h).2).2⟩
  | case4 d rest _ ih => exact List.forall_mem_cons.mpr ⟨hfeed, ih (List.forall_mem_cons.mp h).2⟩
  | case5 c rest _ ih =>
    obtain ⟨hc, hr⟩ := List.forall_mem_cons.mp h
    exact List.forall_mem_cons.mpr ⟨hc, ih hr⟩

theorem hasBytes_of_mem_cutLines (h : t.HasBytes) : ∀ line ∈ cutLines t, line.HasBytes := by
  induction t with
  | nil => exact List.forall_mem_nil _
  | cons c t ih =>
    obtain ⟨hc, ht⟩ := List.forall_mem_cons.mp h
    have hlines := ih ht
    rw [cutLines]
    split
    · exact List.forall_mem_cons.mpr ⟨hasBytes_nil, hlines⟩
    split
    · exact List.forall_mem_singleton.mpr (List.forall_mem_singleton.mpr hc)
    next line more hcut =>
      rw [hcut, List.forall_mem_cons] at hlines
      exact List.forall_mem_cons.mpr ⟨List.forall_mem_cons.mpr ⟨hc, hlines.1⟩, hlines.2⟩

theorem HasBytes.splitLines (h : t.HasBytes) : ∀ line ∈ t.splitLines, line.HasBytes :=
  hasBytes_of_mem_cutLines h.unifyLineEndings

theorem HasBytes.trimRight (h : t.HasBytes) : t.trimRight.HasBytes := by
  intro c hc
  have hm := (List.dropWhile_sublist _).subset (List.mem_reverse.mp hc)
  exact h c (List.mem_reverse.mp hm)

end Text

theorem Utf8.encode_of_hasBytes {t : Text} (h : t.HasBytes) : encode t = .ok (encodeAll t) := by
  have hall : ∀ c ∈ t, (!c.isSurrogate) = true := fun c hc => by simp [h c hc]
  have htake := Text.takeWhile_append_of_ends (t := []) hall nofun
  have hdrop := Text.dropWhile_append_of_ends (t := []) hall nofun
  rw [List.append_nil] at htake hdrop
  rw [encode]
  simp only [htake, hdrop]

end CatalogTypes
