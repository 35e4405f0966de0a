import CatalogTypes.Proofs.Decimal.Layout
import CatalogTypes.Text.Lines

/-! # Lines

The lines of a text stand between its line feeds. A text that is written at a margin is the text
without one, with the margin put in behind every line feed: its lines are the same but for the
margin, and a text on a single line stays as it is.
-/
namespace CatalogTypes.Text
variable {s t margin : Text}

def IsOneLine (t : Text) : Prop := ('\n' : CodePoint) ∉ t

instance (t : Text) : Decidable t.IsOneLine := inferInstanceAs (Decidable (¬ _))

theorem IsOneLine.append (hs : s.IsOneLine) (ht : t.IsOneLine) : (s ++ t).IsOneLine := by
  intro h
  exact (List.mem_append.mp h).elim hs ht

theorem IsNumeric.isOneLine (h : t.IsNumeric) : t.IsOneLine := by
  intro hc
  exact absurd (h _ hc) (by decide)

/-- Puts a margin in behind every line feed. -/
def shift (margin t : Text) : Text :=
  t.flatMap fun c : CodePoint => if c = '\n' then c :: margin else [c]

theorem shift_append (margin s t : Text) :
    shift margin (s ++ t) = shift margin s ++ shift margin t :=
  List.flatMap_append

theorem shift_lineFeed (margin t : Text) :
    shift margin (('\n' : CodePoint) :: t) = ('\n' : CodePoint) :: (margin ++ shift margin t) := by
  rw [shift, List.flatMap_cons, if_pos rfl]
  rfl

theorem shift_cons_of_ne {c : CodePoint} (hc : c ≠ '\n') (margin t : Text) :
    shift margin (c :: t) = c :: shift margin t := by
  rw [shift, List.flatMap_cons, if_neg hc]
  rfl

theorem IsOneLine.shift_eq (h : t.IsOneLine) (margin : Text) : shift margin t = t := by
  induction t with
  | nil => rfl
  | cons c t ih =>
    obtain ⟨hc, ht⟩ := not_or.mp (fun hm => h (List.mem_cons.mpr hm))
    rw [shift_cons_of_ne (Ne.symm hc), ih ht]

/-- A text that was shifted once and is shifted again has both margins, the new one in front. -/
theorem shift_shift (outer : Text) (hm : margin.IsOneLine) (t : Text) :
    shift outer (shift margin t) = shift (outer ++ margin) t := by
  induction t with
  | nil => rfl
  | cons c t ih =>
    by_cases hc : c = '\n'
    · subst hc
      rw [shift_lineFeed, shift_lineFeed, shift_lineFeed, shift_append, hm.shift_eq, ih,
        List.append_assoc]
    · rw [shift_cons_of_ne hc, shift_cons_of_ne hc, shift_cons_of_ne hc, ih]

/-- Pieces on lines of their own are shifted one by one. -/
theorem append_shift_intercalate (margin : Text) {pieces : List Text} (hne : pieces ≠ []) :
    margin ++ shift margin (List.intercalate (text ",\n") pieces) =
      List.intercalate (text ",\n") (pieces.map fun piece => margin ++ shift margin piece) := by
  have hcomma : shift margin (text ",\n") = text ",\n" ++ margin := by
    change shift margin ((',' : CodePoint) :: [('\n' : CodePoint)]) = _
    rw [shift_cons_of_ne (by decide), shift_lineFeed]
    simp [shift, text]
  induction pieces with
  | nil => exact absurd rfl hne
  | cons piece pieces ih =>
    cases pieces with
    | nil => simp
    | cons next rest =>
      have hrest := ih (List.cons_ne_nil next rest)
      rw [List.map_cons] at hrest
      rw [List.intercalate_cons_cons, shift_append, shift_append, hcomma, List.map_cons,
        List.map_cons, List.intercalate_cons_cons, ← hrest]
      simp only [List.append_assoc]

/-- All that is put in front of a text without a separator comes to its first piece. -/
theorem split_append_of_not_mem {separator : CodePoint} (hs : separator ∉ s) {first : Text}
    {rest : List Text} (ht : t.split separator = first :: rest) :
    (s ++ t).split separator = (s ++ first) :: rest := by
  induction s with
  | nil => exact ht
  | cons c s ih =>
    obtain ⟨hc, hs⟩ := not_or.mp (fun hm => hs (List.mem_cons.mpr hm))
    rw [List.cons_append, split, if_neg (Ne.symm hc), ih hs]
    rfl

/-- Only the lines behind the first one are moved, and nothing in them changes. -/
theorem split_shift (hm : margin.IsOneLine) (t : Text) :
    ∃ first rest, t.split '\n' = first :: rest ∧ (shift margin t).split '\n' = first ::
      rest.map (margin ++ ·) := by
  induction t with
  | nil => exact ⟨[], [], rfl, rfl⟩
  | cons c t ih =>
    obtain ⟨first, rest, ht, hshift⟩ := ih
    by_cases hc : c = '\n'
    · subst hc
      refine ⟨[], first :: rest, by rw [split, if_pos rfl, ht], ?_⟩
      rw [shift_lineFeed, split, if_pos rfl, split_append_of_not_mem hm hshift, List.map_cons]
    · refine ⟨c :: first, rest, by rw [split, if_neg hc, ht], ?_⟩
      rw [shift_cons_of_ne hc, split, if_neg hc, hshift]

theorem isOneLine_of_mem_cutLines : ∀ line ∈ cutLines t, line.IsOneLine := by
  induction t with
  | nil => exact List.forall_mem_nil _
  | cons c t ih =>
    rw [cutLines]
    split
    · exact List.forall_mem_cons.mpr ⟨List.not_mem_nil, ih⟩
    next hc =>
      have hne : c ≠ '\n' := by
        rintro rfl
        exact hc rfl
      cases hlines : cutLines t with
      | nil => exact List.forall_mem_singleton.mpr fun h => hne (List.mem_singleton.mp h).symm
      | cons line more =>
        rw [hlines] at ih
        obtain ⟨hline, hmore⟩ := List.forall_mem_cons.mp ih
        refine List.forall_mem_cons.mpr ⟨fun h => ?_, hmore⟩
        exact (List.mem_cons.mp h).elim (fun he => hne he.symm) hline

/-- Pieces that are on one line each follow the lines of the first one. -/
theorem split_lines_cons (first : Text) {rest : List Text} (h : ∀ line ∈ rest, line.IsOneLine) :
    (lines (first :: rest)).split '\n' = first.split '\n' ++ rest := by
  have hfeed : text "\n" = [('\n' : CodePoint)] := rfl
  rw [lines, hfeed]
  cases rest with
  | nil => rw [List.intercalate_singleton, List.append_nil]
  | cons next more =>
    rw [List.intercalate_cons_cons, List.append_assoc, List.singleton_append, split_append,
      split_intercalate (List.cons_ne_nil next more) h]

end CatalogTypes.Text
