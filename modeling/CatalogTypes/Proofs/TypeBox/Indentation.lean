import CatalogTypes.Proofs.Schema.Part
import CatalogTypes.Proofs.Text.Lines
import CatalogTypes.Proofs.TypeBox.Literals

/-! # Indentation

Keys and literals are written on a single line, so all line feeds of a type stand between its
fields. A type that is indented is therefore the type without indentation, moved to the right. That
holds of the types in it as well, which are moved by two more spaces for each object around them.
-/
namespace CatalogTypes.TypeBox
open Text

section Lines

theorem isOneLine_writeString (s : Text) : (Json.writeString .unicode s).IsOneLine := by
  have hquoted : Quoted (s.flatMap (Json.escaped .unicode)) :=
    quoted_flatMap fun c _ => quoted_escaped c
  have hbody : IsOneLine (s.flatMap (Json.escaped .unicode)) :=
    fun h => absurd (hquoted.printable _ h) (by decide)
  have hmark : IsOneLine [CodePoint.quotationMark] := by decide
  exact (hmark.append hbody).append hmark

theorem isOneLine_intercalate {separator : Text} {pieces : List Text} (hs : separator.IsOneLine)
    (h : ∀ piece ∈ pieces, piece.IsOneLine) : IsOneLine (List.intercalate separator pieces) :=
  intercalate_induction List.not_mem_nil (fun _ _ => IsOneLine.append) hs h

theorem isOneLine_colon : (text ": ").IsOneLine := by decide

theorem isOneLine_comma : (text ", ").IsOneLine := by decide

mutual

theorem isOneLine_write : ∀ v : Json, (v.write .unicode).IsOneLine
  | .null => (by decide : (text "null").IsOneLine)
  | .bool true => (by decide : (text "true").IsOneLine)
  | .bool false => (by decide : (text "false").IsOneLine)
  | .int n => (isNumeric_ofInt n).isOneLine
  | .float x => (Binary64.isNumeric_render (by decide) (by decide) x).isOneLine
  | .string s => isOneLine_writeString s
  | .array items =>
    ((by decide : (text "[").IsOneLine).append (isOneLine_writeItems items)).append (by decide)
  | .object members =>
    ((by decide : (text "\x7b").IsOneLine).append (isOneLine_writeMembers members)).append
      (by decide)

theorem isOneLine_writeItems : ∀ items : List Json, (Json.writeItems .unicode items).IsOneLine
  | [] => List.not_mem_nil
  | [item] => isOneLine_write item
  | item :: next :: rest =>
    ((isOneLine_write item).append isOneLine_comma).append (isOneLine_writeItems (next :: rest))

theorem isOneLine_writeMembers :
    ∀ members : List (Text × Json), (Json.writeMembers .unicode members).IsOneLine
  | [] => List.not_mem_nil
  | [(name, value)] =>
    ((isOneLine_writeString name).append isOneLine_colon).append (isOneLine_write value)
  | (name, value) :: next :: rest =>
    ((((isOneLine_writeString name).append isOneLine_colon).append (isOneLine_write value)).append
      isOneLine_comma).append (isOneLine_writeMembers (next :: rest))

end

end Lines

def NamesOneLine (s : Schema Json) : Prop :=
  ∀ path t, s.at? path = some t → ∀ p ∈ t.properties, p.1.IsOneLine

section Names
variable {caption : Caption}

theorem namesOneLine_items {s : Schema Json} :
    NamesOneLine (.array caption (some s)) ↔ NamesOneLine s := by
  constructor
  · intro h path t ht
    exact h (.items :: path) t ht
  · intro h path t ht
    cases path with
    | nil =>
      cases ht
      exact List.forall_mem_nil _
    | cons step path =>
      cases step with
      | items => exact h path t ht
      | property position => cases ht

theorem namesOneLine_properties {properties : List (Text × Schema Json)} {required : List Text} :
    NamesOneLine (.object caption properties required) ↔ ∀ p ∈ properties, p.1.IsOneLine ∧
    NamesOneLine p.2 := by
  constructor
  · intro h p hp
    refine ⟨h [] _ rfl p hp, fun path t ht => ?_⟩
    obtain ⟨position, hposition⟩ := List.getElem?_of_mem hp
    refine h (.property position :: path) t ?_
    rw [Schema.at?_cons, Schema.part?, Schema.properties, hposition]
    exact ht
  · intro h path t ht
    cases path with
    | nil =>
      cases ht
      exact fun p hp => (h p hp).1
    | cons step path =>
      cases step with
      | items => cases ht
      | property position =>
        obtain ⟨child, hchild, ht⟩ := Option.bind_eq_some_iff.mp ht
        obtain ⟨p, hp, rfl⟩ := Option.map_eq_some_iff.mp hchild
        exact (h p (List.mem_of_getElem? hp)).2 path t ht

theorem namesOneLine_of_eq_nil {s : Schema Json} (hi : s.items? = none) (hp : s.properties = []) :
    NamesOneLine s := by
  intro path t ht
  cases path with
  | nil =>
    cases ht
    rw [hp]
    exact List.forall_mem_nil _
  | cons step path =>
    cases step with
    | items =>
      rw [Schema.at?_cons, Schema.part?, hi] at ht
      cases ht
    | property position =>
      rw [Schema.at?_cons, Schema.part?, hp] at ht
      cases ht

end Names

section Shifting
open TypeBox.Expr

theorem isOneLine_key {name : Text} (h : name.IsOneLine) : (key name).IsOneLine := by
  unfold key
  split
  · exact h
  · exact isOneLine_writeString name

theorem isOneLine_union (literals : List Json) : ((Expr.union literals).render []).IsOneLine := by
  have hopen : (text "Type.Literal(").IsOneLine := by decide
  have hclose : (text ")").IsOneLine := by decide
  have hliterals : IsOneLine (List.intercalate (text ", ") (literals.map literal)) := by
    refine isOneLine_intercalate isOneLine_comma (List.forall_mem_map.mpr fun v _ => ?_)
    exact (hopen.append (isOneLine_write v)).append hclose
  exact ((by decide : (text "Type.Union([").IsOneLine).append hliterals).append (by decide)

theorem shift_optional (margin : Text) (required : Bool) (type : Text) :
    shift margin (optional required type) = optional required (shift margin type) := by
  have hopen : (text "Type.Optional(").IsOneLine := by decide
  have hclose : (text ")").IsOneLine := by decide
  cases required with
  | false =>
    change shift margin (text "Type.Optional(" ++ type ++ text ")") =
      text "Type.Optional(" ++ shift margin type ++ text ")"
    rw [shift_append, shift_append, hopen.shift_eq, hclose.shift_eq]
  | true => rfl

/-- A field whose type is moved with its margin is moved as a whole. -/
theorem field_append_indentation {f : Text × Bool × Expr} (hn : f.1.IsOneLine)
    (h : ∀ indent, f.2.2.render indent = shift indent (f.2.2.render [])) (indent : Text) :
    field (indent ++ indentation) f = indent ++ shift indent (field indentation f) := by
  have hindentation : indentation.IsOneLine := by decide
  have htype : f.2.2.render (indent ++ indentation) = shift indent (f.2.2.render indentation) := by
    rw [h, h indentation, shift_shift indent hindentation]
  rw [field, field, htype, shift_append, shift_append, shift_append, hindentation.shift_eq,
    (isOneLine_key hn).shift_eq, isOneLine_colon.shift_eq, shift_optional]
  simp only [List.append_assoc]

/-- An object with fields opens with its brace, has the fields on lines of their own, and
closes at its margin. -/
theorem render_fields (margin : Text) (f : Text × Bool × Expr)
    (fields : List (Text × Bool × Expr)) :
    (Expr.object (f :: fields)).render margin = text "Type.Object(\x7b" ++ (('\n' : CodePoint) ::
      (List.intercalate (text ",\n") ((f :: fields).map (field (margin ++ indentation))) ++
        (('\n' : CodePoint) :: (margin ++ text "\x7d)")))) := by
  have hopen : text "Type.Object(\x7b\n" = text "Type.Object(\x7b" ++ [('\n' : CodePoint)] := rfl
  have hbreak : text "\n" = [('\n' : CodePoint)] := rfl
  rw [render, renderFields_eq, hopen, hbreak]
  simp only [List.append_assoc, List.cons_append, List.nil_append]

mutual

/-- A type is moved to the right by its indentation, if no name brings in a line feed. -/
theorem ofSchema_eq_shift : ∀ s : Schema Json, NamesOneLine s → ∀ indent,
    ofSchema indent s = shift indent (ofSchema [] s)
  | .leaf _ kind, _, indent => by
    have hline : (ofSchema [] (.leaf .empty kind)).IsOneLine := by cases kind <;> decide
    cases kind <;> exact (hline.shift_eq indent).symm
  | .string _ [], _, indent => ((by decide : (text "Type.String()").IsOneLine).shift_eq indent).symm
  | .string _ (choice :: choices), _, indent =>
    ((isOneLine_union (choice :: choices)).shift_eq indent).symm
  | .array _ none, _, indent =>
    ((by decide : (text "Type.Array(" ++ text "Type.Any()" ++ text ")").IsOneLine).shift_eq
      indent).symm
  | .array _ (some items), h, indent => by
    have hitems := ofSchema_eq_shift items (namesOneLine_items.mp h) indent
    have hopen : (text "Type.Array(").IsOneLine := by decide
    have hclose : (text ")").IsOneLine := by decide
    change text "Type.Array(" ++ ofSchema indent items ++ text ")" =
      shift indent (text "Type.Array(" ++ ofSchema [] items ++ text ")")
    rw [shift_append, shift_append, hopen.shift_eq, hclose.shift_eq, hitems]
  | .object _ [] _, _, indent =>
    ((by decide : (text "Type.Object(\x7b\x7d)").IsOneLine).shift_eq indent).symm
  | .object _ ((name, s) :: rest) required, h, indent => by
    have hfields :=
      fields_eq_shift ((name, s) :: rest) required (namesOneLine_properties.mp h) indent
    have hopen : (text "Type.Object(\x7b").IsOneLine := by decide
    have hclose : (text "\x7d)").IsOneLine := by decide
    have hne : (ofProperties required ((name, s) :: rest)).map (field indentation) ≠ [] :=
      List.cons_ne_nil _ _
    have hbody := append_shift_intercalate indent hne
    rw [ofSchema, ofSchema, Expr.ofSchema]
    rw [ofProperties] at hfields hbody ⊢
    rw [render_fields, render_fields, hfields, ← hbody]
    simp only [shift_append, shift_lineFeed, hopen.shift_eq, hclose.shift_eq, List.nil_append,
      List.append_assoc]

theorem fields_eq_shift : ∀ (properties : List (Text × Schema Json)) (required : List Text),
    (∀ p ∈ properties, p.1.IsOneLine ∧ NamesOneLine p.2) → ∀ indent,
      (ofProperties required properties).map (field (indent ++ indentation)) =
        ((ofProperties required properties).map (field indentation)).map fun piece =>
          indent ++ shift indent piece
  | [], _, _, _ => rfl
  | (name, s) :: rest, required, h, indent => by
    obtain ⟨⟨hname, hs⟩, hrest⟩ := List.forall_mem_cons.mp h
    have hfield :=
      field_append_indentation (f := (name, required.contains name, Expr.ofSchema s)) hname
      (ofSchema_eq_shift s hs) indent
    rw [ofProperties, List.map_cons, List.map_cons, List.map_cons, hfield,
      fields_eq_shift rest required hrest indent]

end

end Shifting

section Parts
open TypeBox.Expr

/-- What is put in front of the lines of a type that a path leads to. -/
def margin (path : List Schema.Step) : Text :=
  path.flatMap fun
    | .items => []
    | .property _ => indentation

theorem infix_intercalate {separator piece : Text} {pieces : List Text} (h : piece ∈ pieces) :
    piece <:+: List.intercalate separator pieces := by
  induction pieces with
  | nil => cases h
  | cons first rest ih =>
    rw [intercalate_cons]
    rcases List.mem_cons.mp h with rfl | h
    · exact (List.prefix_append _ _).isInfix
    · refine (ih h).trans ?_
      cases rest with
      | nil => cases h
      | cons next rest =>
        rw [afterFirst]
        exact ((List.suffix_append _ _).trans (List.suffix_append _ _)).isInfix

theorem mem_ofProperties {required : List Text} {name : Text} {s : Schema Json}
    {properties : List (Text × Schema Json)} (h : (name, s) ∈ properties) :
    (name, required.contains name, Expr.ofSchema s) ∈ ofProperties required properties := by
  induction properties with
  | nil => cases h
  | cons p rest ih =>
    rw [ofProperties]
    rcases List.mem_cons.mp h with rfl | h
    · exact List.mem_cons_self
    · exact List.mem_cons_of_mem _ (ih h)

/-- The type of a property stands in the type of its object, two spaces further in. -/
theorem infix_ofSchema_object {caption : Caption} {properties : List (Text × Schema Json)}
    {required : List Text} {name : Text} {s : Schema Json} (h : (name, s) ∈ properties)
    (indent : Text) :
    ofSchema (indent ++ indentation) s <:+: ofSchema indent
      (.object caption properties required) := by
  have hmem : (name, required.contains name, Expr.ofSchema s) ∈ ofProperties required properties :=
    mem_ofProperties h
  have hfield := List.mem_map_of_mem (f := field (indent ++ indentation)) hmem
  have htype : ofSchema (indent ++ indentation) s <:+:
      field (indent ++ indentation) (name, required.contains name, Expr.ofSchema s) := by
    refine List.IsInfix.trans ?_ (List.suffix_append _ _).isInfix
    cases required.contains name with
    | false => exact ⟨text "Type.Optional(", text ")", rfl⟩
    | true => exact List.infix_rfl
  refine htype.trans ((infix_intercalate hfield : _ <:+: List.intercalate (text ",\n") _).trans ?_)
  rw [ofSchema, Expr.ofSchema]
  cases hfields : ofProperties required properties with
  | nil =>
    rw [hfields] at hfield
    cases hfield
  | cons f fields =>
    rw [render_fields]
    exact ((List.prefix_append _ _).isInfix.trans (List.suffix_cons _ _).isInfix).trans
      (List.suffix_append _ _).isInfix

/-- The type that a path leads to stands in the whole type, at the margin of the path. -/
theorem infix_ofSchema {path : List Schema.Step} {s t : Schema Json} (h : s.at? path = some t)
    (indent : Text) :
    ofSchema (indent ++ margin path) t <:+: ofSchema indent s := by
  induction path generalizing s indent with
  | nil =>
    cases h
    have hmargin : indent ++ margin [] = indent := by simp [margin]
    exact ⟨[], [], by rw [hmargin, List.nil_append, List.append_nil]⟩
  | cons step path ih =>
    obtain ⟨child, hchild, ht⟩ := Option.bind_eq_some_iff.mp h
    cases step with
    | items =>
      cases s with
      | array caption items =>
        cases hchild
        exact (ih ht indent).trans ⟨text "Type.Array(", text ")", rfl⟩
      | leaf _ _ | string _ _ | object _ _ _ => cases hchild
    | property position =>
      obtain ⟨⟨name, _⟩, hp, rfl⟩ := Option.map_eq_some_iff.mp hchild
      cases s with
      | object caption properties required =>
        have hinner := ih ht (indent ++ indentation)
        rw [List.append_assoc] at hinner
        exact hinner.trans (infix_ofSchema_object (List.mem_of_getElem? hp) indent)
      | leaf _ _ | string _ _ | array _ _ => cases hp

theorem NamesOneLine.at? {path : List Schema.Step} {s t : Schema Json} (h : NamesOneLine s)
    (ht : s.at? path = some t) :
    NamesOneLine t := by
  intro further u hu
  refine h (path ++ further) u ?_
  rw [Schema.at?, List.foldlM_append]
  exact Option.bind_eq_some_iff.mpr ⟨t, ht, hu⟩

end Parts

/-- If no name of a property brings in a line feed, then an indentation is only put in behind each
line feed of a type. The type of a part stands in it as it is without indentation, but for a margin
that its lines share; and no line of the type is changed behind its margin. -/
theorem indentation_only_shifts {s : Schema Json} (h : NamesOneLine s) (indent : Text) :
    ofSchema indent s = shift indent (ofSchema [] s) ∧
    (∀ path t, s.at? path = some t →
      shift (indent ++ margin path) (ofSchema [] t) <:+: ofSchema indent s) ∧
    (indent.IsOneLine → ∃ first rest, (ofSchema [] s).split '\n' = first :: rest ∧
      (ofSchema indent s).split '\n' = first :: rest.map (indent ++ ·)) := by
  refine ⟨ofSchema_eq_shift s h indent, ?_, ?_⟩
  · intro path t ht
    rw [← ofSchema_eq_shift t (h.at? ht)]
    exact infix_ofSchema ht indent
  · intro hindent
    rw [ofSchema_eq_shift s h indent]
    exact split_shift hindent (ofSchema [] s)

def brokenChoice : Schema Json := .string .empty [.string "x\ny"]
def listedObject : Schema Json := .object .empty [(text "c", brokenChoice)] []

def listing : Schema Json :=
  .object .empty [(text "a-b", .array .empty (some listedObject))] [text "a-b"]

theorem namesOneLine_listing : NamesOneLine listing := by
  have hchoice : NamesOneLine brokenChoice := namesOneLine_of_eq_nil rfl rfl
  have hobject : NamesOneLine listedObject :=
    namesOneLine_properties.mpr (List.forall_mem_singleton.mpr ⟨by decide, hchoice⟩)
  have hitems : NamesOneLine (.array .empty (some listedObject)) := namesOneLine_items.mpr hobject
  exact namesOneLine_properties.mpr (List.forall_mem_singleton.mpr ⟨by decide, hitems⟩)

theorem indentation_only_shifts_listing : NamesOneLine listing ∧
    ofSchema "\t" listing = shift "\t" (ofSchema [] listing) ∧
    shift "\t  " (ofSchema [] listedObject) <:+: ofSchema "\t" listing ∧
    (ofSchema "\t" listing).split '\n' =
      [text "Type.Object(\x7b", text "\t  \"a-b\": Type.Array(Type.Object(\x7b",
      text "\t    c: Type.Optional(Type.Union([Type.Literal(\"x\\ny\")]))", text "\t  \x7d))",
        text "\t\x7d)"] := by
  obtain ⟨hshift, hparts, _⟩ := indentation_only_shifts namesOneLine_listing "\t"
  exact ⟨namesOneLine_listing, hshift, hparts [.property 0, .items] listedObject rfl,
    by decide +kernel⟩

end CatalogTypes.TypeBox
