import CatalogTypes.Proofs.Catalog.Units
import CatalogTypes.Proofs.Package.Exports
import CatalogTypes.Proofs.Text.Ascii
import CatalogTypes.Proofs.TypeBox.Bytes

/-! # Texts of package files

The index of a package is plain text, and so is its descriptor. The file of a unit also quotes the
title and the description of its schema, so it has bytes if the strings of the schema do.
-/
namespace CatalogTypes
open Text Identifier

theorem Text.IsPlain.hasBytes {t : Text} (h : t.IsPlain) : t.HasBytes :=
  fun c hc => CodePoint.isSurrogate_eq_false_of_lt (by have hp := (h c hc).1; omega)

theorem Identifier.WellFormed.hasBytes {identifier : Text} (h : WellFormed identifier) :
    identifier.HasBytes :=
  fun c hc => CodePoint.isSurrogate_eq_false_of_isAlphanumeric (h.isAlphanumeric c hc)

namespace Schema

/-- What a schema says of itself has bytes if the value that it was read from has them. -/
theorem hasBytes_caption {limit : Int} {room depth : Nat} {enclosing : List Nat} {raw : Json}
    {s : Schema Json} (h : readAt .tree limit room depth enclosing raw = .ok s)
    (hb : raw.HasBytes) :
    (∀ t, s.caption.title = some t → t.HasBytes) ∧ ∀ t, s.caption.description = some t →
    t.HasBytes := by
  cases raw with
  | object members =>
    have htext {name t : Text} (ht : (members.lookup name).bind Source.tree.text? = some t) :
        t.HasBytes := by
      obtain ⟨value, hl, hv⟩ := Option.bind_eq_some_iff.mp ht
      have hvalue := hb.of_lookup hl
      cases hvalue with
      | string hs =>
        cases hv
        exact hs
      | null | bool _ | int _ | float _ | array _ | object _ _ => cases hv
    have hlevel : Source.tree.level (.object members) = .object members := rfl
    obtain ⟨_, _, _, hr⟩ := readAt_ok_members hlevel h
    rw [caption_of_readMembers hr]
    exact ⟨fun _ => htext, fun _ => htext⟩
  | null | bool _ | int _ | float _ | string _ | array _ =>
    rw [readAt_of_not_isObject rfl] at h
    cases h
    exact ⟨nofun, nofun⟩

end Schema

namespace Package

theorem isPlain_of_isAlphanumeric {c : CodePoint} (h : c.isAlphanumeric) : c.IsPlain := by
  refine ⟨lt_of_isAlphanumeric h, ?_⟩
  rintro rfl
  exact absurd h (by decide)

theorem isPlain_exportLine {u : TypeUnit} (h : WellFormed u.identifier) : u.exportLine.IsPlain := by
  have hi : u.identifier.IsPlain := fun c hc => isPlain_of_isAlphanumeric (h.isAlphanumeric c hc)
  have hopen : (text "export \x7b ").IsPlain := by decide
  have hschema : (text "Schema, ").IsPlain := by decide
  have htype : (text "Type \x7d from './").IsPlain := by decide
  have hclose : (text "';").IsPlain := by decide
  exact (((((hopen.append hi).append hschema).append hi).append htype).append hi).append hclose

theorem isPlain_indexFile (kind : CatalogKind) {units : List TypeUnit}
    (h : ∀ u ∈ units, WellFormed u.identifier) :
    (indexFile kind.name (units.map TypeUnit.exportLine)).IsPlain := by
  have hfront : (indexFront kind.name).IsPlain := by cases kind <;> decide +kernel
  have hback : indexBack.IsPlain := by decide +kernel
  have hlines : (Text.lines (units.map TypeUnit.exportLine)).IsPlain := by
    apply Text.isPlain_lines
    intro line hl
    obtain ⟨u, hu, rfl⟩ := List.mem_map.mp hl
    exact isPlain_exportLine (h u hu)
  rw [indexFile_eq]
  exact hfront.append (hlines.append hback)

theorem hasBytes_shieldCommentEnds {t : Text} (h : t.HasBytes) :
    (shieldCommentEnds t).HasBytes := by
  have hback : CodePoint.backslash.isSurrogate = false := rfl
  fun_induction shieldCommentEnds t with
  | case1 => exact h
  | case2 c => exact h
  | case3 c d rest _ ih =>
    obtain ⟨hc, ht⟩ := List.forall_mem_cons.mp h
    obtain ⟨hd, hr⟩ := List.forall_mem_cons.mp ht
    exact List.forall_mem_cons.mpr
      ⟨hc, List.forall_mem_cons.mpr ⟨hback, List.forall_mem_cons.mpr ⟨hd, ih hr⟩⟩⟩
  | case4 c d rest _ ih =>
    obtain ⟨hc, ht⟩ := List.forall_mem_cons.mp h
    exact List.forall_mem_cons.mpr ⟨hc, ih ht⟩

theorem hasBytes_docComment {title description : Text} (ht : title.HasBytes)
    (hd : description.HasBytes) :
    (docComment title description).HasBytes := by
  have hstar : (text " * ").HasBytes := by decide
  have hopen : (text "/**\n").HasBytes := by decide
  have hclose : (text "\n */").HasBytes := by decide
  have hline {line : Text} (h : line.HasBytes) : (commentLine line).HasBytes :=
    HasBytes.trimRight (hstar.append h)
  have hlines : ∀ line ∈ (title :: description.splitLines).map commentLine, line.HasBytes := by
    intro line hl
    obtain ⟨line, hm, rfl⟩ := List.mem_map.mp hl
    rcases List.mem_cons.mp hm with rfl | hm
    · exact hline ht
    · exact hline (hd.splitLines line hm)
  exact (hopen.append (hasBytes_shieldCommentEnds (hasBytes_intercalate (by decide) hlines))).append
    hclose

theorem hasBytes_orElse {t : Option Text} {fallback : Text} (h : ∀ u, t = some u → u.HasBytes)
    (hf : fallback.HasBytes) : (orElse t fallback).HasBytes := by
  unfold orElse
  split
  · exact hf
  · exact hf
  next u _ => exact h u rfl

/-- The file of a unit has bytes if all strings of its schema do. -/
theorem hasBytes_typeFile {raw : Json} {s : Schema Json} {identifier : Text}
    (h : Schema.ofJson raw = .ok s) (hb : raw.HasBytes) (hi : WellFormed identifier) :
    (typeFile (TypeUnit.ofSchema identifier s)).HasBytes := by
  obtain ⟨htitle, hdescription⟩ := Schema.hasBytes_caption h hb
  have hcomment : (comment (TypeUnit.ofSchema identifier s)).HasBytes :=
    hasBytes_docComment (hasBytes_orElse htitle hi.hasBytes)
      (hasBytes_orElse hdescription (by decide : defaultDescription.HasBytes))
  have hexpression : (TypeBox.ofSchema [] s).HasBytes :=
    TypeBox.Expr.hasBytes_render (TypeBox.Expr.hasBytes_ofSchema h hb) hasBytes_nil
  have himport : typeBoxImport.HasBytes := by decide
  have hbreaks : (text "\n\n").HasBytes := by decide
  have hbreak : (text "\n").HasBytes := by decide
  have hdeclaration : (TypeBox.schemaDeclaration identifier (TypeBox.ofSchema [] s)).HasBytes := by
    have hopen : (text "export const ").HasBytes := by decide
    have hmiddle : (text "Schema = ").HasBytes := by decide
    have hclose : (text ";").HasBytes := by decide
    exact (((hopen.append hi.hasBytes).append hmiddle).append hexpression).append hclose
  have halias : (TypeBox.typeAlias identifier).HasBytes := by
    have hopen : (text "export type ").HasBytes := by decide
    have hmiddle : (text "Type = Static<typeof ").HasBytes := by decide
    have hclose : (text "Schema>;").HasBytes := by decide
    exact (((hopen.append hi.hasBytes).append hmiddle).append hi.hasBytes).append hclose
  exact ((((((himport.append hbreaks).append hcomment).append hbreaks).append hdeclaration).append
    hbreaks).append
    halias).append hbreak

theorem hasBytes_descriptorFile (kind : CatalogKind) : (descriptorFile kind.name).HasBytes := by
  cases kind <;> decide +kernel

end Package

namespace Walk

theorem exists_occurrence_of_mem {pool : Pool} {occurrences : List Occurrence}
    {units : List TypeUnit} (h : (ofOccurrences pool occurrences).result = .ok units) {u : TypeUnit}
    (hu : u ∈ units) :
    ∃ o ∈ occurrences, ∃ s, Schema.ofJson o.schema = .ok s ∧
    u = TypeUnit.ofSchema u.identifier s := by
  induction occurrences generalizing pool units with
  | nil =>
    cases h
    cases hu
  | cons o occurrences ih =>
    obtain ⟨s, rest, hs, hr, rfl⟩ := ofOccurrences_cons h
    rcases List.mem_cons.mp hu with rfl | hu
    · exact ⟨o, List.mem_cons_self, s, hs, rfl⟩
    · obtain ⟨o', ho', hs'⟩ := ih hr hu
      exact ⟨o', List.mem_cons_of_mem _ ho', hs'⟩

end Walk

namespace Package

theorem hasBytes_of_mem_files {kind : CatalogKind} {catalog : List Json} {units : List TypeUnit}
    (hw : (Walk.ofCatalog kind catalog).result = .ok units)
    (hb : ∀ o ∈ kind.occurrences catalog, o.schema.HasBytes) :
    ∀ f ∈ files kind.name units, f.content.HasBytes := by
  have hi := Walk.wellFormed_identifier hw
  intro f hf
  unfold files at hf
  split at hf
  · cases hf
  rcases List.mem_append.mp hf with hf | hf
  · obtain ⟨u, hu, rfl⟩ := List.mem_map.mp hf
    obtain ⟨o, ho, s, hs, he⟩ := Walk.exists_occurrence_of_mem hw hu
    rw [fileAt, he]
    exact hasBytes_typeFile hs (hb o ho) (hi u hu)
  · have hindex := (isPlain_indexFile kind hi).hasBytes
    simp only [packageFiles, List.mem_cons, List.not_mem_nil, or_false] at hf
    rcases hf with rfl | rfl | rfl
    · exact hindex
    · exact hindex
    · exact hasBytes_descriptorFile kind

end Package
end CatalogTypes
