import Mathlib.Data.List.Nodup
import CatalogTypes.Proofs.Package.Statements
import CatalogTypes.Proofs.Package.Texts

/-! # Names that modules bind

The index of a package passes on two names for each unit and those of TypeBox, and the file of a
unit imports the names of TypeBox and declares two. No name is bound twice in either:
identifiers are not empty and differ from each other, and the endings that are put to them
differ in their last letters.
-/
namespace CatalogTypes.Package
open Text Identifier TypeBox TypeBox.Expr

def bound (identifier : Text) : List Text := [identifier ++ "Schema", identifier ++ "Type"]

def typeBoxNames : List Text := ["Type", "Static"]

def exported (u : TypeUnit) : Statement := .exports (bound u.identifier) ("./" ++ u.identifier)

def indexStatements (units : List TypeUnit) : List Statement :=
  units.map exported ++ [.exports typeBoxNames typeBoxModule]

def unitStatements (identifier : Text) : List Statement :=
  [.imports typeBoxNames typeBoxModule, .constant (identifier ++ "Schema"),
    .staticType (identifier ++ "Type") (identifier ++ "Schema")]

section Reading
variable {units : List TypeUnit} {identifier package : Text}

theorem isIdentifier_append (h : WellFormed identifier) {ending : Text}
    (he : ending.all CodePoint.isAlphanumeric) :
    IsIdentifier (identifier ++ ending) := by
  have hpart {c : CodePoint} (hc : c.isAlphanumeric) : isNamePart c := by
    rw [isNamePart, hc]
    rfl
  obtain ⟨c, rest, rfl, hc, hr⟩ := h
  refine ⟨c, rest ++ ending, rfl, hpart (isAlphanumeric_of_isLetter hc), ?_, ?_⟩
  · simp only [CodePoint.isLetter, CodePoint.isDigit, Bool.or_eq_true, Bool.and_eq_true,
      decide_eq_true_eq] at hc ⊢
    simp only [Bool.and_eq_false_iff, decide_eq_false_iff_not]
    omega
  · intro d hd
    rcases List.mem_append.mp hd with hd | hd
    · exact hpart (hr d hd)
    · exact hpart (List.all_eq_true.mp he d hd)

theorem isIdentifier_schemaName (h : WellFormed identifier) :
    IsIdentifier (identifier ++ "Schema") :=
  isIdentifier_append h (by decide)

theorem isIdentifier_typeName (h : WellFormed identifier) : IsIdentifier (identifier ++ "Type") :=
  isIdentifier_append h (by decide)

theorem all_exportLine {u : TypeUnit} (h : WellFormed u.identifier) (t : Text) :
    Statement.all (u.exportLine ++ t) = (Statement.all t).map (exported u :: ·) := by
  have hline : u.exportLine ++ t =
      text "export " ++ Statement.pair (u.identifier ++ "Schema") (u.identifier ++ "Type")
        ("./" ++ u.identifier) ++ t := by
    simp only [TypeUnit.exportLine, Statement.pair, List.append_assoc]
    rfl
  have hsource : CodePoint.apostrophe ∉ text "./" ++ u.identifier := by
    rw [List.mem_append, not_or]
    exact ⟨by decide, fun hm => absurd (h.isAlphanumeric _ hm) (by decide)⟩
  rw [hline, Statement.all_export (isIdentifier_schemaName h) (isIdentifier_typeName h) hsource]
  rfl

theorem all_exportLines (h : ∀ u ∈ units, WellFormed u.identifier) (t : Text) :
    Statement.all (Text.lines (units.map TypeUnit.exportLine) ++ t) =
      (Statement.all t).map (units.map exported ++ ·) := by
  induction units with
  | nil => exact Option.map_id'.symm
  | cons u units ih =>
    have hu := h u List.mem_cons_self
    cases units with
    | nil =>
      simp only [Text.lines, List.map_cons, List.map_nil, List.intercalate_singleton]
      exact all_exportLine hu t
    | cons v units =>
      have hr := ih fun x hx => h x (List.mem_cons_of_mem _ hx)
      simp only [Text.lines, List.map_cons, List.intercalate_cons_cons, List.append_assoc] at hr ⊢
      rw [all_exportLine hu, Statement.all_lineFeed, hr, Option.map_map]
      rfl

theorem unended_source (h : Unended package) : Unended (source package) := by
  unfold source
  cases CatalogKind.all.find? (·.name = package) with
  | none => exact h
  | some kind =>
    cases kind with
    | contentTypes => exact (by decide : Unended (text "content-types.json"))
    | sections => exact (by decide : Unended (text "sections.json"))

theorem unended_fullName (h : Unended package) : Unended (fullName package) := by
  have hscope : Unended (scope ++ "/") := by decide
  exact hscope.append h (.inl (by decide))

def indexComment (package : Text) : Text :=
  "*\n * TypeBox types generated automatically from " ++ (source package ++
    ("\n *\n * Usage:\n * import \x7b MenuMenuhotbarType, CarouselType \x7d from '" ++
      (fullName package ++ "';\n ")))

theorem indexFront_eq (package : Text) :
    indexFront package = "/*" ++ (indexComment package ++ (commentEnd ++ "\n\n")) := by
  have hopen : text "/**\n * TypeBox types generated automatically from " =
      text "/*" ++ text "*\n * TypeBox types generated automatically from " := by decide +kernel
  have hclose : text "';\n */\n\n" = text "';\n " ++ (commentEnd ++ text "\n\n") := by
    decide +kernel
  simp only [indexFront, indexComment, hopen, hclose, List.append_assoc]

theorem unended_indexComment (h : Unended package) : Unended (indexComment package ++ "*") := by
  have hopen : Unended (text "*\n * TypeBox types generated automatically from ") := by
    decide +kernel
  have husage : Unended
      (text "\n *\n * Usage:\n * import \x7b MenuMenuhotbarType, CarouselType \x7d from '") := by
    decide +kernel
  have hclose : Unended (text "';\n " ++ text "*") := by decide
  have hquote (t : Text) : (text "';\n " ++ t).head? ≠ some ('/' : CodePoint) := by
    change some CodePoint.apostrophe ≠ some ('/' : CodePoint)
    decide
  have hname :=
    husage.append ((unended_fullName h).append hclose (.inr (hquote _))) (.inl (by decide))
  have hbreak (t : Text) :
      (text "\n *\n * Usage:\n * import \x7b MenuMenuhotbarType, CarouselType \x7d from '" ++
        t).head? ≠
      some ('/' : CodePoint) := by
    change some ('\n' : CodePoint) ≠ some ('/' : CodePoint)
    decide
  have hall := hopen.append ((unended_source h).append hname (.inr (hbreak _))) (.inl (by decide))
  simp only [indexComment, List.append_assoc]
  exact hall

/-- An index opens with one comment, unless the name of its package ends it. -/
theorem all_indexFront (h : Unended package) (t : Text) :
    Statement.all (indexFront package ++ t) = Statement.all t := by
  rw [indexFront_eq, List.append_assoc, List.append_assoc, List.append_assoc,
    Statement.all_comment (unended_indexComment h), Statement.all_blankLine]

theorem all_indexBack : Statement.all indexBack = some [.exports typeBoxNames typeBoxModule] := by
  decide +kernel

theorem all_indexFile (hp : Unended package) (h : ∀ u ∈ units, WellFormed u.identifier) :
    Statement.all (indexFile package (units.map TypeUnit.exportLine)) =
      some (indexStatements units) := by
  rw [indexFile_eq, all_indexFront hp, all_exportLines h, all_indexBack]
  rfl

theorem all_docComment (title description t : Text) :
    Statement.all (docComment title description ++ t) = Statement.all t := by
  obtain ⟨body, hbody⟩ : ∃ body, commentFront title description = text "/*" ++ body :=
    ⟨_, by rw [commentFront, List.append_assoc]; rfl⟩
  have hunended := unended_commentFront title description
  rw [hbody, List.append_assoc] at hunended
  rw [docComment_eq, hbody, List.append_assoc, List.append_assoc]
  exact Statement.all_comment (List.isChain_append.mp hunended).2.1 t

theorem all_typeFile (h : WellFormed identifier) (s : Schema Json) :
    Statement.all (typeFile (TypeUnit.ofSchema identifier s)) =
      some (unitStatements identifier) := by
  have hschema := isIdentifier_schemaName h
  have htype : IsIdentifier (text "Type") :=
    ⟨'T', "ype", rfl, by decide, by decide, List.all_eq_true.mp (by decide)⟩
  have hstatic : IsIdentifier (text "Static") :=
    ⟨'S', "tatic", rfl, by decide, by decide, List.all_eq_true.mp (by decide)⟩
  have hcode : Code false (TypeBox.ofSchema [] s) := code_render _ [] rfl false
  have htext : typeFile (TypeUnit.ofSchema identifier s) =
      text "import " ++ Statement.pair "Type" "Static" typeBoxModule ++ (text "\n\n" ++
        (comment (TypeUnit.ofSchema identifier s) ++ (text "\n\n" ++
          (text "export const " ++ (identifier ++ "Schema") ++ text " = " ++
            TypeBox.ofSchema [] s ++ text ";" ++
            (text "\n\n" ++ (text "export type " ++ (identifier ++ "Type") ++
              text " = Static<typeof " ++
              (identifier ++ "Schema") ++ text ">;" ++ text "\n")))))) := by
    simp only [typeFile, TypeUnit.ofSchema, schemaDeclaration, typeAlias, List.append_assoc]
    rfl
  rw [htext, Statement.all_import htype hstatic (by decide), Statement.all_blankLine, comment,
    all_docComment, Statement.all_blankLine, Statement.all_constant hschema hcode,
      Statement.all_blankLine,
    Statement.all_staticType (isIdentifier_typeName h) hschema]
  rfl

end Reading

section Distinct
variable {units : List TypeUnit} {identifier other : Text}

theorem append_ne_append {s t : Text} {c d : CodePoint} (hs : s.getLast? = some c)
    (ht : t.getLast? = some d) (h : c ≠ d) (front front' : Text) :
    front ++ s ≠ front' ++ t := by
  intro he
  have hlast := congrArg List.getLast? he
  rw [List.getLast?_append, List.getLast?_append, hs, ht] at hlast
  exact h (Option.some.inj hlast)

theorem schemaName_ne_typeName (identifier other : Text) :
    identifier ++ text "Schema" ≠ other ++ text "Type" :=
  append_ne_append rfl rfl (by decide) identifier other

theorem nodup_bound (identifier : Text) : (bound identifier).Nodup :=
  List.nodup_cons.mpr ⟨mt List.mem_singleton.mp (schemaName_ne_typeName identifier identifier),
    List.nodup_singleton _⟩

theorem eq_of_mem_bound {name : Text} (h : name ∈ bound identifier) (h' : name ∈ bound other) :
    identifier = other := by
  simp only [bound, List.mem_cons, List.not_mem_nil, or_false] at h h'
  rcases h with rfl | rfl <;> rcases h' with he | he
  · exact List.append_cancel_right he
  · exact absurd he (schemaName_ne_typeName identifier other)
  · exact absurd he.symm (schemaName_ne_typeName other identifier)
  · exact List.append_cancel_right he

/-- No identifier is made into a name of TypeBox. -/
theorem not_mem_typeBoxNames (hi : identifier ≠ []) {name : Text} (h : name ∈ bound identifier) :
    name ∉ typeBoxNames := by
  simp only [bound, typeBoxNames, List.mem_cons, List.not_mem_nil, or_false, not_or] at h ⊢
  rcases h with rfl | rfl
  · have hstatic : identifier ++ text "Schema" ≠ text "Static" :=
      append_ne_append rfl (rfl : (text "Static").getLast? = some ('c' : CodePoint))
        (by decide) identifier []
    exact ⟨schemaName_ne_typeName identifier [], hstatic⟩
  · have hstatic : identifier ++ text "Type" ≠ text "Static" :=
      append_ne_append rfl (rfl : (text "Static").getLast? = some ('c' : CodePoint))
        (by decide) identifier []
    exact ⟨fun he => hi (List.append_left_eq_self.mp he), hstatic⟩

theorem nodup_typeBoxNames : typeBoxNames.Nodup := by
  decide

theorem flatMap_names_exported (units : List TypeUnit) :
    (units.map exported).flatMap Statement.names =
      (units.map TypeUnit.identifier).flatMap bound := by
  rw [List.flatMap_map, List.flatMap_map]
  rfl

theorem nodup_indexNames (hw : ∀ u ∈ units, WellFormed u.identifier)
    (h : (units.map TypeUnit.identifier).Nodup) :
    ((indexStatements units).flatMap Statement.names).Nodup := by
  have hunits : ((units.map TypeUnit.identifier).flatMap bound).Nodup := by
    refine List.nodup_flatMap.mpr ⟨fun identifier _ => nodup_bound identifier,
      h.imp fun hne name hn hm => ?_⟩
    exact hne (eq_of_mem_bound hn hm)
  rw [indexStatements, List.flatMap_append, flatMap_names_exported, List.flatMap_singleton]
  refine List.nodup_append'.mpr ⟨hunits, nodup_typeBoxNames, fun name hn => ?_⟩
  obtain ⟨identifier, hi, hname⟩ := List.mem_flatMap.mp hn
  obtain ⟨u, hu, rfl⟩ := List.mem_map.mp hi
  exact not_mem_typeBoxNames (hw u hu).ne_nil hname

theorem nodup_indexSources (h : (units.map TypeUnit.identifier).Nodup) :
    ((indexStatements units).filterMap Statement.source?).Nodup := by
  have hsources : (indexStatements units).filterMap Statement.source? =
      (units.map TypeUnit.identifier).map (text "./" ++ ·) ++ [typeBoxModule] := by
    rw [indexStatements, List.filterMap_append, List.filterMap_map, List.map_map,
      ← List.filterMap_eq_map]
    rfl
  rw [hsources]
  refine List.nodup_append'.mpr ⟨h.map fun _ _ => List.append_cancel_left, List.nodup_singleton _,
    fun name hn => ?_⟩
  obtain ⟨identifier, _, rfl⟩ := List.mem_map.mp hn
  rw [List.mem_singleton]
  intro he
  exact absurd (List.cons.inj he).1 (by decide)

theorem nodup_unitNames (h : identifier ≠ []) :
    ((unitStatements identifier).flatMap Statement.names).Nodup := by
  have hnames : (unitStatements identifier).flatMap Statement.names = typeBoxNames ++
      bound identifier := rfl
  rw [hnames]
  exact List.nodup_append'.mpr ⟨nodup_typeBoxNames, nodup_bound identifier,
    fun name ht hb => not_mem_typeBoxNames h hb ht⟩

end Distinct

/-- What the files of a catalog bind is read off their texts. The index, which may be of a package
with any name that does not end the comment before it, passes on the two names of every unit and
those of TypeBox. All of these differ, and so do the modules that they are passed on from. A unit's
file imports the names of TypeBox and declares its two, and these four differ as well. -/
theorem bindings_nodup {kind : CatalogKind} {catalog : List Json} {units : List TypeUnit}
    (h : (Walk.ofCatalog kind catalog).result = .ok units) :
    (∀ package, Unended package →
      Statement.all (indexFile package (units.map TypeUnit.exportLine)) =
        some (indexStatements units)) ∧
    ((indexStatements units).flatMap Statement.names).Nodup ∧
    ((indexStatements units).filterMap Statement.source?).Nodup ∧
    ∀ u ∈ units, Statement.all (typeFile u) = some (unitStatements u.identifier) ∧
      ((unitStatements u.identifier).flatMap Statement.names).Nodup := by
  have hw := Walk.wellFormed_identifier h
  have hn := Walk.nodup_identifiers h
  refine ⟨fun package hp => all_indexFile hp hw, nodup_indexNames hw hn, nodup_indexSources hn,
    fun u hu => ?_⟩
  obtain ⟨_, _, s, _, he⟩ := Walk.exists_occurrence_of_mem h hu
  have hfile := all_typeFile (hw u hu) s
  rw [← he] at hfile
  exact ⟨hfile, nodup_unitNames (hw u hu).ne_nil⟩

def namedSection (name : Text) : Json := .object [("name", .string name), ("schema", .object [])]

def alikeSections : List Json :=
  [namedSection "Type", namedSection "Static", namedSection "Schema", namedSection "Type"]

theorem bindings_nodup_alike :
    ∃ units, (Walk.ofCatalog .sections alikeSections).result = .ok units ∧
    units.map TypeUnit.identifier = [text "Type", text "Static", text "Schema", text "Type2"] ∧
    Unended CatalogKind.sections.name ∧
    Statement.all (indexFile CatalogKind.sections.name (units.map TypeUnit.exportLine)) =
      some (indexStatements units) ∧
    ((indexStatements units).flatMap Statement.names).Nodup ∧
    ∀ u ∈ units, Statement.all (typeFile u) = some (unitStatements u.identifier) := by
  have hok : (Walk.ofCatalog .sections alikeSections).result.isOk := by decide +kernel
  cases hw : (Walk.ofCatalog .sections alikeSections).result with
  | error e =>
    rw [hw] at hok
    cases hok
  | ok units =>
    have hname : Unended CatalogKind.sections.name := by decide
    obtain ⟨hindex, hnames, _, hfiles⟩ := bindings_nodup hw
    have htype : ofName (text "Type") = text "Type" :=
      WellFormed.ofName_eq ⟨'T', "ype", rfl, by decide, List.all_eq_true.mp (by decide)⟩
    have hstatic : ofName (text "Static") = text "Static" :=
      WellFormed.ofName_eq ⟨'S', "tatic", rfl, by decide, List.all_eq_true.mp (by decide)⟩
    have hschema : ofName (text "Schema") = text "Schema" :=
      WellFormed.ofName_eq ⟨'S', "chema", rfl, by decide, List.all_eq_true.mp (by decide)⟩
    have hoccurrences : (CatalogKind.sections.occurrences alikeSections).map Occurrence.name =
        [text "Type", text "Static", text "Schema", text "Type"] := by decide +kernel
    refine ⟨units, rfl, ?_, hname, hindex _ hname, hnames, fun u hu => (hfiles u hu).1⟩
    rw [Walk.identifiers_eq hw, hoccurrences]
    simp only [Pool.assignAll, Pool.assign, htype, hstatic, hschema]
    decide +kernel

end CatalogTypes.Package
