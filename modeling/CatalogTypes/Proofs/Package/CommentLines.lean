import CatalogTypes.Proofs.Package.Comment
import CatalogTypes.Proofs.Text.Trimmed

/-! # Lines of a comment

The lines of a description stand behind a star each, without white space at their ends. A title is
put behind one star as a whole, so a title of several lines leaves the comment with lines that have
no star, unless the title has them.
-/
namespace CatalogTypes.Package
open Text
variable {line t : Text} {c : CodePoint}

/-- A line that goes on with a comment: it begins with a blank and a star and does not
end in white space. -/
structure IsCommentLine (line : Text) : Prop where
  marked : text " *" <+: line
  trimmed : line.Trimmed

section Shielding

theorem shieldCommentEnds_cons (h : ¬ (c = '*' ∧ t.head? = some ('/' : CodePoint))) :
    shieldCommentEnds (c :: t) = c :: shieldCommentEnds t := by
  cases t with
  | nil => rfl
  | cons d t => rw [shieldCommentEnds, if_neg (by simpa using h)]

theorem getLast?_shieldCommentEnds (t : Text) : (shieldCommentEnds t).getLast? = t.getLast? := by
  fun_induction shieldCommentEnds t with
  | case1 => rfl
  | case2 c => rfl
  | case3 c d rest h ih => simp [List.getLast?_cons, ih]
  | case4 c d rest h ih =>
    rw [List.getLast?_cons, ih, List.getLast?_cons]
    simp [List.getLast?_cons]

theorem marked_cons : text " *" <+: c :: t ↔ c = ' ' ∧ t.head? = some ('*' : CodePoint) := by
  have hstar : text "*" <+: t ↔ t.head? = some ('*' : CodePoint) := by
    cases t with
    | nil => simp [text]
    | cons d t => simp [text, List.cons_prefix_cons, eq_comm]
  rw [← hstar, eq_comm]
  exact List.cons_prefix_cons

theorem marked_shieldCommentEnds : text " *" <+: shieldCommentEnds line ↔ text " *" <+: line := by
  cases line with
  | nil => rfl
  | cons c t =>
    by_cases hc : c = ' '
    · have hapart : ¬ (c = '*' ∧ t.head? = some ('/' : CodePoint)) :=
        fun h => absurd (hc.symm.trans h.1) (by decide)
      rw [shieldCommentEnds_cons hapart, marked_cons, marked_cons, head?_shieldCommentEnds]
    · have hhead := head?_shieldCommentEnds (c :: t)
      cases hs : shieldCommentEnds (c :: t) with
      | nil =>
        rw [hs] at hhead
        cases hhead
      | cons d u =>
        rw [hs] at hhead
        cases hhead
        rw [marked_cons, marked_cons]
        exact iff_of_false (fun h => hc h.1) fun h => hc h.1

theorem isCommentLine_shieldCommentEnds :
    IsCommentLine (shieldCommentEnds line) ↔ IsCommentLine line := by
  have htrimmed : (shieldCommentEnds line).Trimmed ↔ line.Trimmed := by
    rw [Trimmed, Trimmed, getLast?_shieldCommentEnds]
  constructor
  · rintro ⟨hm, ht⟩
    exact ⟨marked_shieldCommentEnds.mp hm, htrimmed.mp ht⟩
  · rintro ⟨hm, ht⟩
    exact ⟨marked_shieldCommentEnds.mpr hm, htrimmed.mpr ht⟩

/-- Lines are shielded one by one, since no end of a comment goes over the end of a line. -/
theorem split_shieldCommentEnds (t : Text) :
    (shieldCommentEnds t).split '\n' = (t.split '\n').map shieldCommentEnds := by
  fun_induction shieldCommentEnds t with
  | case1 => rfl
  | case2 c =>
    by_cases hc : c = '\n'
    · subst hc
      rfl
    · rw [split_cons_eq (t := []) hc rfl]
      rfl
  | case3 c d rest h ih =>
    obtain ⟨rfl, rfl⟩ := h
    obtain ⟨first, more, hrest⟩ := List.exists_cons_of_ne_nil (split_ne_nil '\n' rest)
    have hfeed : ('/' : CodePoint) ≠ '\n' := by decide
    have hslash := split_cons_eq hfeed hrest
    rw [hrest, List.map_cons] at ih
    have hshielded := split_cons_eq hfeed ih
    rw [split_cons_eq (by decide) hslash,
      split_cons_eq (by decide) (split_cons_eq (c := CodePoint.backslash) (by decide) hshielded),
        List.map_cons,
      shieldCommentEnds, if_pos ⟨rfl, rfl⟩]
  | case4 c d rest h ih =>
    by_cases hc : c = '\n'
    · rw [split, if_pos hc, split, if_pos hc, ih, List.map_cons]
      rfl
    · obtain ⟨first, more, hrest⟩ := List.exists_cons_of_ne_nil (split_ne_nil '\n' (d :: rest))
      have hapart : ¬ (c = '*' ∧ first.head? = some ('/' : CodePoint)) :=
        fun hboth => h ⟨hboth.1, Option.some.inj (head?_of_split hrest hboth.2)⟩
      rw [hrest, List.map_cons] at ih
      rw [split_cons_eq hc ih, split_cons_eq hc hrest, List.map_cons, shieldCommentEnds_cons hapart]

end Shielding

section Titles
variable {title : Text}

theorem commentLine_eq (line : Text) :
    commentLine line = text " *" ++ trimRight (text " " ++ line) := by
  have hstar : (text " *").Trimmed := by decide
  exact trimRight_append fun _ => hstar

theorem isCommentLine_commentLine (line : Text) : IsCommentLine (commentLine line) := by
  refine ⟨?_, trimmed_trimRight _⟩
  rw [commentLine_eq]
  exact List.prefix_append _ _

theorem isOneLine_commentLine (h : line.IsOneLine) : (commentLine line).IsOneLine :=
  IsOneLine.trimRight (IsOneLine.append (by decide) h)

/-- The lines that a title is written on are comment lines if it has only one, white
space at its end apart, or if each of them is such a line already and the first one could
stand behind its star. -/
def Continues (title : Text) : Prop :=
  ∀ first next rest, (trimRight title).split '\n' = first :: next :: rest →
    (first ≠ [] ∧ first.Trimmed) ∧ ∀ line ∈ next :: rest, IsCommentLine line

theorem continues_of_isOneLine (h : (trimRight title).IsOneLine) : Continues title := by
  intro first next rest hsplit
  rw [split_of_not_mem h] at hsplit
  cases hsplit

theorem isCommentLine_append_iff :
    IsCommentLine (text " * " ++ line) ↔ line ≠ [] ∧ line.Trimmed := by
  constructor
  · rintro ⟨_, ht⟩
    cases line with
    | nil => exact absurd (ht ' ' rfl) (by decide)
    | cons c t =>
      refine ⟨List.cons_ne_nil c t, fun d hd => ht d ?_⟩
      rw [List.getLast?_append, Option.mem_def.mp hd]
      rfl
  · rintro ⟨hne, ht⟩
    refine ⟨⟨text " " ++ line, rfl⟩, fun d hd => ht d ?_⟩
    rw [List.getLast?_append] at hd
    cases hlast : line.getLast? with
    | none => exact absurd (List.getLast?_eq_none_iff.mp hlast) hne
    | some e =>
      rw [hlast] at hd
      exact hd

theorem isCommentLine_title_iff :
    (∀ line ∈ (commentLine title).split '\n', IsCommentLine line) ↔ Continues title := by
  by_cases hblank : trimRight title = []
  · have hspace : trimRight (text " " ++ title) = [] := trimRight_cons_eq_nil (by decide) hblank
    have hcomment := isCommentLine_commentLine title
    have hone : (commentLine title).IsOneLine := by
      rw [commentLine_eq, hspace]
      decide
    have htitle : (trimRight title).IsOneLine := by
      rw [hblank]
      decide
    rw [split_of_not_mem hone]
    exact iff_of_true (List.forall_mem_singleton.mpr hcomment) (continues_of_isOneLine htitle)
  · have hline : commentLine title = text " * " ++ trimRight title :=
      trimRight_append fun h => absurd h hblank
    obtain ⟨first, more, hsplit⟩ := List.exists_cons_of_ne_nil (split_ne_nil '\n' (trimRight title))
    have hopen : (text " * ").IsOneLine := by decide
    rw [hline, split_append_of_not_mem hopen hsplit, List.forall_mem_cons, isCommentLine_append_iff,
      Continues, hsplit]
    cases more with
    | nil =>
      have hfirst : first = trimRight title := by
        have hjoined := intercalate_split '\n' (trimRight title)
        rwa [hsplit, List.intercalate_singleton] at hjoined
      rw [hfirst]
      exact iff_of_true ⟨⟨hblank, trimmed_trimRight title⟩, List.forall_mem_nil _⟩ nofun
    | cons next rest =>
      constructor
      · rintro h _ _ _ he
        cases he
        exact h
      · intro h
        exact h first next rest rfl

end Titles

section Lines

/-- The lines between the first and the last one of a comment. -/
def commentLines (title description : Text) : List Text :=
  ((commentLine title).split '\n' ++ description.splitLines.map commentLine).map shieldCommentEnds

theorem split_docComment (title description : Text) :
    (docComment title description).split '\n' = text "/**" ::
      (commentLines title description ++ [text " */"]) := by
  have hopen : (text "/**").IsOneLine := by decide
  have hclose : (text " */").IsOneLine := by decide
  have hrest : ∀ line ∈ description.splitLines.map commentLine, line.IsOneLine := by
    intro line hl
    obtain ⟨piece, hp, rfl⟩ := List.mem_map.mp hl
    exact isOneLine_commentLine (isOneLine_of_mem_cutLines piece hp)
  have htext : docComment title description = text "/**" ++ ('\n' : CodePoint) ::
      (shieldCommentEnds
        (Text.lines (commentLine title :: description.splitLines.map commentLine)) ++
        ('\n' : CodePoint) :: text " */") := by
    rw [docComment, List.append_assoc]
    rfl
  rw [htext, split_append, split_append, split_shieldCommentEnds, split_lines_cons _ hrest,
    split_of_not_mem hopen, split_of_not_mem hclose]
  rfl

/-- The lines of a description are comment lines in any case, so only those of the title decide. -/
theorem isCommentLine_commentLines_iff {title description : Text} :
    (∀ line ∈ commentLines title description, IsCommentLine line) ↔ Continues title := by
  rw [← isCommentLine_title_iff, commentLines, List.forall_mem_map]
  simp only [isCommentLine_shieldCommentEnds, List.forall_mem_append]
  refine and_iff_left fun line hl => ?_
  obtain ⟨piece, _, rfl⟩ := List.mem_map.mp hl
  exact isCommentLine_commentLine piece

theorem unended_of_mem_commentLines {title description : Text}
    (h : line ∈ commentLines title description) :
    Unended line := by
  obtain ⟨piece, _, rfl⟩ := List.mem_map.mp h
  exact unended_shieldCommentEnds piece

/-- The comment of a type file is its third part, behind the import and an empty line, and stands in
it line by line. All its lines but the first and the last are comment lines if and only if the title
is on one line or goes on with the comment by itself; the description may be any text, and no line
of either ends the comment. -/
theorem comment_lines_exact (u : TypeUnit) :
    ∃ lines code,
      (typeFile u).split '\n' = typeBoxImport :: [] :: text "/**" ::
        (lines ++ text " */" :: [] :: code) ∧
      (comment u).split '\n' = text "/**" :: (lines ++ [text " */"]) ∧
      (∀ line ∈ lines, Unended line) ∧
      ((∀ line ∈ lines, IsCommentLine line) ↔ Continues (orElse u.title u.identifier)) := by
  have himport : typeBoxImport.IsOneLine := by decide +kernel
  have hcomment :=
    split_docComment (orElse u.title u.identifier) (orElse u.description defaultDescription)
  obtain ⟨code, hcode⟩ : ∃ code : Text, typeFile u = typeBoxImport ++ ('\n' : CodePoint) :: ([] ++
      ('\n' : CodePoint) ::
        (comment u ++ ('\n' : CodePoint) :: ([] ++ ('\n' : CodePoint) :: code))) := by
    refine ⟨TypeBox.schemaDeclaration u.identifier u.expression ++ "\n\n" ++ u.typeAlias ++ "\n",
      ?_⟩
    simp only [typeFile, List.append_assoc]
    rfl
  refine ⟨_, code.split '\n', ?_, hcomment, fun line => unended_of_mem_commentLines,
    isCommentLine_commentLines_iff⟩
  rw [hcode, split_append, split_append, split_append, split_append, split_of_not_mem himport,
    comment, hcomment]
  simp [split]

def twoLineTitle : TypeUnit := TypeUnit.ofSchema "Hero" (.leaf ⟨some "a\nb", none⟩ .unknown)

theorem comment_line_unmarked :
    (comment twoLineTitle).split '\n' =
      [text "/**", text " * a", text "b", text " * Generated automatically from the CMS",
        text " */"] ∧
    ¬ IsCommentLine (text "b") := by
  refine ⟨by decide +kernel, fun h => ?_⟩
  exact absurd (List.cons_prefix_cons.mp h.marked).1 (by decide)

end Lines

end CatalogTypes.Package
