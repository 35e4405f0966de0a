import Mathlib.Data.List.Chain
import CatalogTypes.Package.TypeFile
import CatalogTypes.Proofs.Results

/-! # The comment of a type file

A comment ends at the first star with a slash behind it. Titles and descriptions cannot bring in
such a pair, and it cannot arise where a text meets the next, so the comment of a type file ends
where it is meant to. Behind it stand the declarations that its schema has without a file.
-/
namespace CatalogTypes.Package

def commentEnd : Text := "*/"

/-- No comment ends within a text. -/
def Unended (t : Text) : Prop := List.IsChain (fun c d : CodePoint => ¬ (c = '*' ∧ d = '/')) t

instance (t : Text) : Decidable (Unended t) :=
  inferInstanceAs (Decidable (List.IsChain (fun c d : CodePoint => ¬ (c = '*' ∧ d = '/')) t))

/-- A text is cut at the first place where a mark stands in it. -/
structure FirstCut (mark t before after : Text) : Prop where
  eq : t = before ++ (mark ++ after)
  first {before' after' : Text} (h : t = before' ++ (mark ++ after')) : before.length ≤
    before'.length

section Unended
variable {s t : Text}

theorem Unended.append (hs : Unended s) (ht : Unended t)
    (h : s.getLast? ≠ some ('*' : CodePoint) ∨ t.head? ≠ some ('/' : CodePoint)) :
    Unended (s ++ t) := by
  refine List.isChain_append.mpr ⟨hs, ht, ?_⟩
  rintro c hc d hd ⟨rfl, rfl⟩
  rcases h with h | h
  · exact h hc
  · exact h hd

theorem head?_shieldCommentEnds (t : Text) : (shieldCommentEnds t).head? = t.head? := by
  fun_induction shieldCommentEnds t <;> rfl

/-- What is shielded cannot end a comment. -/
theorem unended_shieldCommentEnds (t : Text) : Unended (shieldCommentEnds t) := by
  fun_induction shieldCommentEnds t with
  | case1 => exact List.isChain_nil
  | case2 c => exact List.isChain_singleton c
  | case3 c d rest h ih =>
    have hslash : Unended (d :: shieldCommentEnds rest) := by
      refine List.isChain_cons.mpr ⟨fun e _ he => ?_, ih⟩
      rw [h.2] at he
      exact absurd he.1 (by decide)
    refine List.isChain_cons_cons.mpr
      ⟨fun he => ?_, List.isChain_cons_cons.mpr ⟨fun he => ?_, hslash⟩⟩
    · exact absurd he.2 (by decide)
    · exact absurd he.1 (by decide)
  | case4 c d rest h ih =>
    refine List.isChain_cons.mpr ⟨fun e he hce => ?_, ih⟩
    rw [head?_shieldCommentEnds] at he
    cases he
    exact h hce

/-- A comment that is not ended before its last star is ended there. -/
theorem firstCut_of_unended (h : Unended (s ++ text "*")) (t : Text) :
    FirstCut commentEnd (s ++ (commentEnd ++ t)) s t := by
  refine ⟨rfl, fun {before after} he => ?_⟩
  rcases List.append_eq_append_iff.mp he with ⟨more, rfl, _⟩ | ⟨more, rfl, hm⟩
  · simp
  · cases more with
    | nil => simp
    | cons c more =>
      exfalso
      rw [List.cons_append] at hm
      obtain ⟨hc, hm⟩ := List.cons.inj hm
      have hd : ∃ rest, more ++ text "*" = ('/' : CodePoint) :: rest := by
        cases more with
        | nil => exact absurd (List.cons.inj hm).1 (by decide)
        | cons d more => exact ⟨more ++ text "*", congrArg (· :: _) (List.cons.inj hm).1.symm⟩
      obtain ⟨rest, hrest⟩ := hd
      rw [List.append_assoc, List.cons_append, hrest] at h
      have hpair := (List.isChain_append.mp h).2.1
      exact (List.isChain_cons_cons.mp hpair).1 ⟨hc.symm, rfl⟩

end Unended

def commentFront (title description : Text) : Text :=
  "/**\n" ++ shieldCommentEnds (Text.lines ((title :: description.splitLines).map commentLine)) ++
    "\n "

theorem docComment_eq (title description : Text) :
    docComment title description = commentFront title description ++ commentEnd := by
  have hclose : text "\n */" = text "\n " ++ commentEnd := rfl
  rw [docComment, commentFront, hclose, List.append_assoc, List.append_assoc, List.append_assoc]

theorem unended_commentFront (title description : Text) :
    Unended (commentFront title description ++ text "*") := by
  have hopen : Unended (text "/**\n") := by decide
  have hclose : Unended (text "\n *") := by decide
  have hbody := hopen.append (unended_shieldCommentEnds
    (Text.lines ((title :: description.splitLines).map commentLine))) (.inl (by decide))
  have hall := hbody.append hclose (.inr (by decide))
  rw [commentFront, List.append_assoc]
  exact hall

theorem typeFile_eq (identifier : Text) (s : Schema Json) :
    typeFile (TypeUnit.ofSchema identifier s) = typeBoxImport ++ "\n\n" ++
      comment (TypeUnit.ofSchema identifier s) ++
      ("\n\n" ++ TypeBox.declarations identifier s ++ "\n") := by
  simp only [typeFile, TypeUnit.ofSchema, TypeBox.declarations, List.append_assoc]

/-- The comment of a type file ends at the first end of a comment that stands in the file. What
follows it there is what the schema is translated to without a file. -/
theorem typeFile_firstCut {raw : Json} {identifier : Text} {u : TypeUnit}
    (h : (Schema.ofJson raw).map (TypeUnit.ofSchema identifier) = .ok u) :
    ∃ front code, comment u = front ++ commentEnd ∧
      (Schema.ofJson raw).map (TypeBox.declarations identifier) = .ok code ∧
      FirstCut commentEnd (comment u) front [] ∧
      FirstCut commentEnd (typeFile u) (typeBoxImport ++ "\n\n" ++ front)
        ("\n\n" ++ code ++ "\n") := by
  obtain ⟨s, hs, rfl⟩ := map_eq_ok.mp h
  obtain ⟨title, description, hcomment⟩ :
      ∃ title description, comment (TypeUnit.ofSchema identifier s) =
        docComment title description := ⟨_, _, rfl⟩
  rw [docComment_eq] at hcomment
  have hfront := unended_commentFront title description
  have himport : Unended (typeBoxImport ++ text "\n\n") := by decide
  have hfile := himport.append hfront (.inl (by decide))
  rw [← List.append_assoc] at hfile
  refine ⟨commentFront title description, TypeBox.declarations identifier s, hcomment,
    by rw [hs]; rfl, ?_, ?_⟩
  · have hcut := firstCut_of_unended hfront []
    rwa [List.append_nil, ← hcomment] at hcut
  · have htext : typeFile (TypeUnit.ofSchema identifier s) =
        (typeBoxImport ++ "\n\n" ++ commentFront title description) ++
        (commentEnd ++ ("\n\n" ++ TypeBox.declarations identifier s ++ "\n")) := by
      rw [typeFile_eq, hcomment]
      simp only [List.append_assoc]
    rw [htext]
    exact firstCut_of_unended hfile _

def endingComments : Json :=
  .object [("title", .string "*/"), ("description", .string "a **// b\n*/*/")]

theorem typeFile_firstCut_endingComments : ∃ u code,
    (Schema.ofJson endingComments).map (TypeUnit.ofSchema "Hero") = .ok u ∧
      FirstCut commentEnd (typeFile u)
        (typeBoxImport ++ "\n\n" ++ "/**\n * *\\/\n * a **\\// b\n * *\\/*\\/\n ")
          ("\n\n" ++ code ++ "\n") := by
  have h : (Schema.ofJson endingComments).map (TypeUnit.ofSchema "Hero") =
      .ok (TypeUnit.ofSchema "Hero" (.leaf ⟨some "*/", some "a **// b\n*/*/"⟩ .unknown)) := rfl
  obtain ⟨front, code, hcomment, _, _, hcut⟩ := typeFile_firstCut h
  have hfront : front = text "/**\n * *\\/\n * a **\\// b\n * *\\/*\\/\n " := by
    refine (List.append_left_inj commentEnd).mp ?_
    rw [← hcomment]
    decide +kernel
  exact ⟨_, code, h, hfront ▸ hcut⟩

end CatalogTypes.Package
