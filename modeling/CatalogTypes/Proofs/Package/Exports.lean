import CatalogTypes.Package.Exports
import CatalogTypes.Proofs.Package.Names
import CatalogTypes.Proofs.Text.Pieces

/-! # An index read back

What an index exports is read back from its text: the identifiers of its units, in their order. An
export line ends both of its words with what no word character is, and neither the text around the
lines nor what follows an export on its line opens another one. An index thus determines the
identifiers that it was made of.
-/
namespace CatalogTypes

theorem Identifier.WellFormed.ne_nil {identifier : Text} (h : Identifier.WellFormed identifier) :
    identifier ≠ [] := by
  obtain ⟨c, rest, rfl, _⟩ := h
  exact List.cons_ne_nil c rest

namespace Package
open Text Identifier Unicode

theorem stem?_append {t : Text} (h : t ≠ []) (ending : Text) :
    stem? ending (t ++ ending) = some t := by
  simp [stem?, List.length_pos_iff.mpr h]

theorem isWord_of_isAlphanumeric {c : CodePoint} (h : c.isAlphanumeric) : isWord c := by
  have hr : inRanges [(0x30, 0x39), (0x41, 0x5A), (0x61, 0x7A)] c := by
    simp only [CodePoint.isAlphanumeric, CodePoint.isLetter, CodePoint.isDigit,
      Bool.or_eq_true] at h
    simp only [inRanges, List.any_cons, List.any_nil, Bool.or_eq_true, Bool.or_false]
    rcases h with (h | h) | h
    · exact .inr (.inl h)
    · exact .inr (.inr h)
    · exact .inl h
  have hs : [(0x30, 0x39), (0x41, 0x5A), (0x61, 0x7A)] ⊆ wordRangesA := by decide
  obtain ⟨r, hm, hc⟩ := List.any_eq_true.mp hr
  have ha : inRanges wordRangesA c := List.any_eq_true.mpr ⟨r, hs hm, hc⟩
  rw [isWord, ha]
  rfl

/-- An identifier with an ending is a whole word where no word character follows. -/
theorem word_append {identifier t : Text} (hi : WellFormed identifier) (ending : Text)
    (he : ending.all CodePoint.isAlphanumeric) (ht : Ends isWord t) :
    word (identifier ++ ending ++ t) = (identifier ++ ending, t) := by
  have hw : ∀ c ∈ identifier ++ ending, isWord c := by
    intro c hc
    rcases List.mem_append.mp hc with hc | hc
    · exact isWord_of_isAlphanumeric (hi.isAlphanumeric c hc)
    · exact isWord_of_isAlphanumeric (List.all_eq_true.mp he c hc)
  have htake := takeWhile_append_of_ends hw ht
  have hdrop : (identifier ++ ending ++ t).dropWhile isWord = t := by
    have hall := List.takeWhile_append_dropWhile (p := isWord) (l := identifier ++ ending ++ t)
    rw [htake] at hall
    exact List.append_cancel_left hall
  rw [word, htake, hdrop]

def afterExport (u : TypeUnit) : Text := " from './" ++ u.identifier ++ "';"

theorem export?_exportLine {u : TypeUnit} (h : WellFormed u.identifier) (t : Text) :
    export? (u.exportLine ++ t) = some (u.identifier, afterExport u ++ t) := by
  have hline : u.exportLine ++ t =
      text "export \x7b " ++ (u.identifier ++ "Schema" ++
        (text ", " ++ (u.identifier ++ "Type" ++ (text " \x7d" ++ (afterExport u ++ t))))) := by
    simp only [TypeUnit.exportLine, afterExport, List.append_assoc]
    rfl
  have hschema : Ends isWord
      (text ", " ++ (u.identifier ++ "Type" ++ (text " \x7d" ++ (afterExport u ++ t)))) :=
    ends_cons (by decide +kernel) _
  have htype : Ends isWord (text " \x7d" ++ (afterExport u ++ t)) := ends_cons (by decide +kernel) _
  rw [hline, export?, after?_append]
  simp only [bind, Option.bind, word_append h "Schema" (by decide) hschema,
    word_append h "Type" (by decide) htype, stem?_append h.ne_nil, after?_append]
  rfl

theorem exportsFrom_eq (skip : Nat) (t : Text) : exportsFrom skip t = exportsOf (t.drop skip) := by
  induction t generalizing skip with
  | nil => cases skip <;> rfl
  | cons c t ih =>
    cases skip with
    | zero => rfl
    | succ skip => rw [exportsFrom, ih, List.drop_succ_cons]

theorem exportsOf_cons_of_none {c : CodePoint} {t : Text} (h : export? (c :: t) = none) :
    exportsOf (c :: t) = exportsOf t := by
  rw [exportsOf, exportsFrom, h]
  rfl

/-- An export is read once, and reading goes on behind it. -/
theorem exportsOf_of_export? {c : CodePoint} {t after identifier : Text}
    (h : export? (c :: (t ++ after)) = some (identifier, after)) :
    exportsOf (c :: (t ++ after)) = identifier :: exportsOf after := by
  rw [exportsOf, exportsFrom, h]
  simp only [exportsFrom_eq, List.length_append, Nat.add_sub_cancel, List.drop_left]

/-- Letters and digits that are not followed by a blank open no export. -/
theorem exportsOf_append {s : Text} {c : CodePoint} (hs : ∀ d ∈ s, d.isAlphanumeric)
    (hc : c.isAlphanumeric = false) (hb : c ≠ ' ') (t : Text) :
    exportsOf (s ++ c :: t) = exportsOf (c :: t) := by
  induction s with
  | nil => rfl
  | cons d s ih =>
    rw [← ih fun e he => hs e (List.mem_cons_of_mem _ he), List.cons_append]
    apply exportsOf_cons_of_none
    cases ha : after? "export \x7b " (d :: (s ++ c :: t)) with
    | none => simp [export?, ha]
    | some rest =>
      have ht := eq_append_of_after? ha
      have hp : text "export \x7b " ++ rest = text "export" ++ (' ' : CodePoint) ::
          (text "\x7b " ++ rest) := rfl
      rw [hp, ← List.cons_append] at ht
      have hr :=
        (run_append_inj hs (List.all_eq_true.mp (by decide)) (ends_cons hc _)
          (ends_cons (by decide) _) ht).2
      exact absurd (List.cons.inj hr).1 hb

theorem exportsOf_afterExport {u : TypeUnit} (h : WellFormed u.identifier) (t : Text) :
    exportsOf (afterExport u ++ t) = exportsOf t := by
  have hline : afterExport u ++ t = text " from './" ++
      (u.identifier ++ ('\'' : CodePoint) :: (';' : CodePoint) :: t) := by
    simp only [afterExport, List.append_assoc]
    rfl
  have hfront (rest : Text) : exportsOf (text " from './" ++ rest) = exportsOf rest := rfl
  rw [hline, hfront, exportsOf_append h.isAlphanumeric (by decide) (by decide)]
  rfl

theorem exportsOf_exportLine {u : TypeUnit} (h : WellFormed u.identifier) (t : Text) :
    exportsOf (u.exportLine ++ t) = u.identifier :: exportsOf t := by
  obtain ⟨front, hfront⟩ : ∃ front, u.exportLine ++ t = ('e' : CodePoint) ::
      (front ++ (afterExport u ++ t)) := by
    refine ⟨text "xport \x7b " ++ u.identifier ++ "Schema, " ++ u.identifier ++ "Type \x7d", ?_⟩
    simp only [TypeUnit.exportLine, afterExport, List.append_assoc]
    rfl
  have he := export?_exportLine h t
  rw [hfront] at he ⊢
  rw [exportsOf_of_export? he, exportsOf_afterExport h]

theorem exportsOf_lines {units : List TypeUnit} (h : ∀ u ∈ units, WellFormed u.identifier)
    (t : Text) :
    exportsOf (Text.lines (units.map TypeUnit.exportLine) ++ t) = units.map TypeUnit.identifier ++
      exportsOf t := by
  have hbreak (rest : Text) : exportsOf (text "\n" ++ rest) = exportsOf rest := rfl
  induction units with
  | nil => rfl
  | cons u units ih =>
    have hu := h u List.mem_cons_self
    cases units with
    | nil =>
      simp only [Text.lines, List.map_cons, List.map_nil, List.intercalate_singleton]
      exact exportsOf_exportLine hu t
    | cons v units =>
      have hr := ih fun x hx => h x (List.mem_cons_of_mem _ hx)
      simp only [Text.lines, List.map_cons, List.intercalate_cons_cons, List.append_assoc] at hr ⊢
      rw [exportsOf_exportLine hu, hbreak, hr]
      rfl

def indexFront (package : Text) : Text :=
  "/**\n * TypeBox types generated automatically from " ++ source package ++
    "\n *\n * Usage:\n * import \x7b MenuMenuhotbarType, CarouselType \x7d from '" ++
      fullName package ++ "';\n */\n\n"

def indexBack : Text :=
  "\n\n// Re-export TypeBox utilities\nexport \x7b Type, Static \x7d from '" ++
    typeBoxModule ++ "';\n"

theorem indexFile_eq (package : Text) (exports : List Text) :
    indexFile package exports = indexFront package ++ (Text.lines exports ++ indexBack) := by
  simp only [indexFile, indexFront, indexBack, List.append_assoc]

theorem exportsOf_indexFront (kind : CatalogKind) (t : Text) :
    exportsOf (indexFront kind.name ++ t) = exportsOf t := by
  cases kind <;> rfl

theorem exportsOf_indexBack : exportsOf indexBack = [] := by
  decide +kernel

/-- An index exports its units, in their order, and nothing else. -/
theorem exportsOf_indexFile (kind : CatalogKind) {units : List TypeUnit}
    (h : ∀ u ∈ units, WellFormed u.identifier) :
    exportsOf (indexFile kind.name (units.map TypeUnit.exportLine)) =
      units.map TypeUnit.identifier := by
  rw [indexFile_eq, exportsOf_indexFront, exportsOf_lines h, exportsOf_indexBack, List.append_nil]

theorem identifiers_eq_of_indexFile_eq (kind : CatalogKind) {units others : List TypeUnit}
    (h : ∀ u ∈ units, WellFormed u.identifier) (h' : ∀ u ∈ others, WellFormed u.identifier)
    (he : indexFile kind.name (units.map TypeUnit.exportLine) =
      indexFile kind.name (others.map TypeUnit.exportLine)) :
    units.map TypeUnit.identifier = others.map TypeUnit.identifier := by
  rw [← exportsOf_indexFile kind h, he, exportsOf_indexFile kind h']

end Package
end CatalogTypes
