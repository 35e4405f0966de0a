import CatalogTypes.Proofs.Json.Written
import CatalogTypes.TypeBox.Expr

/-! # Written expressions

The text of an expression tells the expression and where it ends, whatever the indentation is. An
expression is the call of a builder, whose name ends at its parenthesis; a field begins with its
key, quoted or not, and is closed by a separator or by the line of the brace.
-/
namespace CatalogTypes.TypeBox
open Text

namespace Expr

def isPlain : Expr → Bool
  | .any | .string | .number | .integer | .boolean | .null => true
  | .union _ | .array _ | .object _ => false

inductive FloatFree : Expr → Prop
  | plain {e : Expr} (h : e.isPlain) : FloatFree e
  | union {literals : List Json} (h : ∀ v ∈ literals, v.FloatFree) : FloatFree (.union literals)
  | array {items : Expr} (h : FloatFree items) : FloatFree (.array items)
  | object {fields : List (Text × Bool × Expr)} (h : ∀ f ∈ fields, FloatFree f.2.2) :
    FloatFree (.object fields)

/-- The functions that an expression can be a call of. -/
inductive Builder where
  | any
  | string
  | number
  | integer
  | boolean
  | null
  | union
  | array
  | object
  deriving DecidableEq

def Builder.name : Builder → Text
  | .any => "Any"
  | .string => "String"
  | .number => "Number"
  | .integer => "Integer"
  | .boolean => "Boolean"
  | .null => "Null"
  | .union => "Union"
  | .array => "Array"
  | .object => "Object"

theorem Builder.name_injective {b b' : Builder} (h : b.name = b'.name) : b = b' := by
  revert h
  cases b <;> cases b' <;> decide

theorem Builder.name_ne_optional (b : Builder) : b.name ≠ "Optional" := by
  cases b <;> decide

theorem Builder.isLetter_of_mem_name (b : Builder) : ∀ c ∈ b.name, c.isLetter := by
  have h : b.name.all CodePoint.isLetter = true := by cases b <;> rfl
  exact List.all_eq_true.mp h

def builder : Expr → Builder
  | .any => .any
  | .string => .string
  | .number => .number
  | .integer => .integer
  | .boolean => .boolean
  | .null => .null
  | .union _ => .union
  | .array _ => .array
  | .object _ => .object

def field (indent : Text) (f : Text × Bool × Expr) : Text :=
  indent ++ key f.1 ++ ": " ++ optional f.2.1 (f.2.2.render indent)

def arguments (indent : Text) : Expr → Text
  | .any | .string | .number | .integer | .boolean | .null => []
  | .union literals => "[" ++ (List.intercalate (text ", ") (literals.map literal) ++ "]")
  | .array items => items.render indent
  | .object [] => "\x7b\x7d"
  | .object (f :: fields) =>
    "\x7b\n" ++ (List.intercalate (text ",\n")
      ((f :: fields).map (field (indent ++ indentation))) ++
      ("\n" ++ (indent ++ "\x7d")))

def call (name arguments : Text) : Text := "Type." ++ (name ++ ("(" ++ (arguments ++ ")")))

theorem renderFields_eq (indent : Text) (fields : List (Text × Bool × Expr)) :
    renderFields indent fields = List.intercalate (text ",\n") (fields.map (field indent)) := by
  induction fields with
  | nil => rfl
  | cons f rest ih =>
    obtain ⟨name, required, e⟩ := f
    cases rest with
    | nil => simp [renderFields, field]
    | cons next rest => simp [renderFields, field, ih, List.intercalate_cons_cons]

theorem render_eq (indent : Text) (e : Expr) :
    e.render indent = call e.builder.name (e.arguments indent) := by
  cases e with
  | any | string | number | integer | boolean | null => rfl
  | union literals =>
    have hopen : text "Type.Union([" = text "Type." ++ (text "Union" ++ (text "(" ++ text "[")) :=
      rfl
    have hclose : text "])" = text "]" ++ text ")" := rfl
    simp [render, call, builder, Builder.name, arguments, hopen, hclose]
  | array items =>
    have hopen : text "Type.Array(" = text "Type." ++ (text "Array" ++ text "(") := rfl
    simp [render, call, builder, Builder.name, arguments, hopen]
  | object fields =>
    cases fields with
    | nil => rfl
    | cons f rest =>
      have hopen : text "Type.Object(\x7b\n" = text "Type." ++
          (text "Object" ++ (text "(" ++ text "\x7b\n")) := rfl
      have hclose : text "\x7d)" = text "\x7d" ++ text ")" := rfl
      simp [render, call, builder, Builder.name, arguments, hopen, hclose, renderFields_eq]

theorem call_append_inj {name name' a a' t t' : Text} (hn : ∀ c ∈ name, c.isLetter)
    (hn' : ∀ c ∈ name', c.isLetter) (h : call name a ++ t = call name' a' ++ t') :
    name = name' ∧ a ++ (")" ++ t) = a' ++ (")" ++ t') := by
  simp only [call, List.append_assoc] at h
  have hp (u : Text) : Ends CodePoint.isLetter (text "(" ++ u) := ends_cons (by decide) u
  obtain ⟨hname, ha⟩ := run_append_inj hn hn' (hp _) (hp _) (List.append_cancel_left h)
  exact ⟨hname, List.append_cancel_left ha⟩

/-- A plain key is a run of the code points of names, and at most a line feed more. -/
theorem isPlainKey_cases {name : Text} (h : isPlainKey name) :
    ∃ body tail, name = body ++ tail ∧ (∀ c ∈ body, isNamePart c) ∧ body ≠ [] ∧
    (tail = [] ∨ tail = text "\n") := by
  cases name with
  | nil => cases h
  | cons c rest =>
    simp only [isPlainKey, Bool.and_eq_true, Bool.or_eq_true, decide_eq_true_eq,
      List.isEmpty_iff] at h
    obtain ⟨⟨hc, _⟩, ht⟩ := h
    refine ⟨c :: rest.takeWhile isNamePart, rest.dropWhile isNamePart, by simp, ?_, by simp, ht⟩
    intro d hd
    rcases List.mem_cons.mp hd with rfl | hd
    · exact hc
    · exact List.all_eq_true.mp List.all_takeWhile d hd

theorem plainKey_append_ne {name : Text} (h : isPlainKey name) (name' t t' : Text) :
    name ++ t ≠ Json.writeString .unicode name' ++ t' := by
  obtain ⟨body, tail, rfl, hb, hne, _⟩ := isPlainKey_cases h
  intro he
  cases body with
  | nil => exact hne rfl
  | cons c body =>
    have hc : c = .quotationMark := (List.cons.inj he).1
    have hp := hb c List.mem_cons_self
    rw [hc] at hp
    exact absurd hp (by decide)

/-- Keys are told apart where a colon follows. -/
theorem key_append_inj {name name' t t' : Text}
    (h : key name ++ (": " ++ t) = key name' ++ (": " ++ t')) :
    name = name' ∧ t = t' := by
  unfold key at h
  split at h <;> split at h
  next hp hp' =>
    obtain ⟨body, tail, rfl, hb, _, ht⟩ := isPlainKey_cases hp
    obtain ⟨body', tail', rfl, hb', _, ht'⟩ := isPlainKey_cases hp'
    have he {tail : Text} (ht : tail = [] ∨ tail = text "\n") (u : Text) :
        Ends isNamePart (tail ++ (": " ++ u)) := by
      rcases ht with rfl | rfl
      · exact ends_cons (by decide) _
      · exact ends_cons (by decide) _
    simp only [List.append_assoc] at h
    obtain ⟨rfl, hr⟩ := run_append_inj hb hb' (he ht t) (he ht' t') h
    rcases ht with rfl | rfl <;> rcases ht' with rfl | rfl
    · exact ⟨rfl, List.append_cancel_left hr⟩
    · exact absurd (List.cons.inj hr).1 (by decide)
    · exact absurd (List.cons.inj hr).1 (by decide)
    · exact ⟨rfl, List.append_cancel_left (List.append_cancel_left hr)⟩
  next hp hp' => exact absurd h (plainKey_append_ne hp _ _ _)
  next hp hp' => exact absurd h.symm (plainKey_append_ne hp' _ _ _)
  next hp hp' =>
    obtain ⟨rfl, hr⟩ := Json.writeString_append_inj h
    exact ⟨rfl, List.append_cancel_left hr⟩

theorem literal_append_inj {v v' : Json} (hv : v.FloatFree) (hv' : v'.FloatFree) {t t' : Text}
    (h : literal v ++ t = literal v' ++ t') : v = v' ∧ t = t' := by
  simp only [literal, Json.encode, List.append_assoc] at h
  have hp (u : Text) : Ends CodePoint.isDigit (text ")" ++ u) := ends_cons (by decide) u
  obtain ⟨rfl, hr⟩ := Json.write_append_inj hv hv' (hp t) (hp t') (List.append_cancel_left h)
  exact ⟨rfl, List.append_cancel_left hr⟩

theorem optional_append_inj {required required' : Bool} {e e' : Expr} {indent t t' : Text}
    (he : ∀ u u' : Text, e.render indent ++ u = e'.render indent ++ u' → e = e' ∧ u = u')
    (h : optional required (e.render indent) ++ t = optional required' (e'.render indent) ++ t') :
    required = required' ∧ e = e' ∧ t = t' := by
  have hw (u : Text) : optional false u = call "Optional" u := by
    have hopen : text "Type.Optional(" = text "Type." ++ (text "Optional" ++ text "(") := rfl
    simp [optional, call, hopen]
  have ho : ∀ c ∈ text "Optional", c.isLetter := List.all_eq_true.mp (by rfl)
  cases required <;> cases required'
  · rw [hw, hw] at h
    obtain ⟨_, hr⟩ := call_append_inj ho ho h
    obtain ⟨hee, hr⟩ := he _ _ hr
    exact ⟨rfl, hee, List.append_cancel_left hr⟩
  · rw [hw, optional, if_pos rfl, render_eq indent e'] at h
    obtain ⟨hn, _⟩ := call_append_inj ho e'.builder.isLetter_of_mem_name h
    exact absurd hn.symm e'.builder.name_ne_optional
  · rw [hw, optional, if_pos rfl, render_eq] at h
    obtain ⟨hn, _⟩ := call_append_inj e.builder.isLetter_of_mem_name ho h
    exact absurd hn e.builder.name_ne_optional
  · obtain ⟨hee, hr⟩ := he _ _ h
    exact ⟨rfl, hee, hr⟩

theorem eq_of_isPlain {e e' : Expr} (h : e.isPlain) (hb : e.builder = e'.builder) : e = e' := by
  cases e <;> cases h <;> cases e' <;> first | rfl | cases hb

theorem eq_union_of_builder {e : Expr} (h : Builder.union = e.builder) :
    ∃ literals, e = .union literals := by
  cases e <;> cases h
  exact ⟨_, rfl⟩

theorem eq_array_of_builder {e : Expr} (h : Builder.array = e.builder) :
    ∃ items, e = .array items := by
  cases e <;> cases h
  exact ⟨_, rfl⟩

theorem eq_object_of_builder {e : Expr} (h : Builder.object = e.builder) :
    ∃ fields, e = .object fields := by
  cases e <;> cases h
  exact ⟨_, rfl⟩

theorem FloatFree.of_union {literals : List Json} (h : FloatFree (.union literals)) :
    ∀ v ∈ literals, v.FloatFree := by
  cases h with
  | plain hp => cases hp
  | union hl => exact hl

theorem FloatFree.of_array {items : Expr} (h : FloatFree (.array items)) : FloatFree items := by
  cases h with
  | plain hp => cases hp
  | array hi => exact hi

theorem FloatFree.of_object {fields : List (Text × Bool × Expr)} (h : FloatFree (.object fields)) :
    ∀ f ∈ fields, FloatFree f.2.2 := by
  cases h with
  | plain hp => cases hp
  | object hf => exact hf

theorem call_of_render {e e' : Expr} {indent t t' : Text}
    (h : e.render indent ++ t = e'.render indent ++ t') :
    e.builder = e'.builder ∧ e.arguments indent ++ (")" ++ t) = e'.arguments indent ++
      (")" ++ t') := by
  rw [render_eq indent e, render_eq indent e'] at h
  obtain ⟨hb, ha⟩ :=
    call_append_inj (Builder.isLetter_of_mem_name _) (Builder.isLetter_of_mem_name _) h
  exact ⟨Builder.name_injective hb, ha⟩

theorem field_append_inj {f f' : Text × Bool × Expr} {indent t t' : Text}
    (he : ∀ u u' : Text, f.2.2.render indent ++ u = f'.2.2.render indent ++ u' →
      f.2.2 = f'.2.2 ∧ u = u')
    (h : field indent f ++ t = field indent f' ++ t') : f = f' ∧ t = t' := by
  simp only [field, List.append_assoc] at h
  obtain ⟨hname, hr⟩ := key_append_inj (List.append_cancel_left h)
  obtain ⟨hrequired, hexpr, hr⟩ := optional_append_inj he hr
  exact ⟨Prod.ext hname (Prod.ext hrequired hexpr), hr⟩

/-- Two expressions at one indentation are told apart whatever follows them. -/
theorem render_append_inj {e e' : Expr} (he : e.FloatFree) (he' : e'.FloatFree) {indent t t' : Text}
    (h : e.render indent ++ t = e'.render indent ++ t') : e = e' ∧ t = t' := by
  obtain ⟨hb, ha⟩ := call_of_render h
  induction he generalizing e' indent t t' with
  | @plain e hp =>
    obtain rfl := eq_of_isPlain hp hb
    exact ⟨rfl, List.append_cancel_left (List.append_cancel_left ha)⟩
  | @union literals hl =>
    obtain ⟨literals', rfl⟩ := eq_union_of_builder hb
    have hl' := he'.of_union
    have ha := List.append_cancel_left (by simpa only [arguments, List.append_assoc] using ha)
    have hclose (v : Json) : ∀ u u' : Text, literal v ++ u ≠ (']' : CodePoint) :: u' := by
      intro u u' hc
      exact absurd (List.cons.inj hc).1 (by decide)
    have hliteral : ∀ v ∈ literals, ∀ v' ∈ literals', ToldApart literal ',' ']' v v' := by
      intro v hv v' hv' u u' _ _ hvv
      exact literal_append_inj (hl v hv) (hl' v' hv') hvv
    obtain ⟨rfl, hr⟩ :=
      intercalate_closed_inj (by decide) (fun v _ => hclose v) (fun v _ => hclose v) hliteral ha
    exact ⟨rfl, List.append_cancel_left hr⟩
  | @array items hi ih =>
    obtain ⟨items', rfl⟩ := eq_array_of_builder hb
    obtain ⟨hbi, hr⟩ := call_of_render ha
    obtain ⟨rfl, ht⟩ := ih he'.of_array ha hbi hr
    exact ⟨rfl, List.append_cancel_left ht⟩
  | @object fields hf ih =>
    obtain ⟨fields', rfl⟩ := eq_object_of_builder hb
    have hf' := he'.of_object
    cases fields with
    | nil =>
      cases fields' with
      | nil => exact ⟨rfl, List.append_cancel_left (List.append_cancel_left ha)⟩
      | cons f' rest' => exact absurd (List.cons.inj (List.cons.inj ha).2).1 (by decide)
    | cons f rest =>
      cases fields' with
      | nil => exact absurd (List.cons.inj (List.cons.inj ha).2).1 (by decide)
      | cons f' rest' =>
        have ha := List.append_cancel_left (by simpa only [arguments, List.append_assoc] using ha)
        have hfield : ∀ g ∈ f :: rest, ∀ g' ∈ f' :: rest',
            ToldApart (field (indent ++ indentation)) ',' '\n' g g' := by
          intro g hg g' hg' u u' _ _ hgg
          refine field_append_inj (fun v v' hv => ?_) hgg
          obtain ⟨hbv, hav⟩ := call_of_render hv
          exact ih g hg (hf' g' hg') hv hbv hav
        obtain ⟨hfields, hr⟩ := intercalate_append_inj (by decide) hfield ha
        exact ⟨by rw [hfields],
          List.append_cancel_left (List.append_cancel_left (List.append_cancel_left hr))⟩

end Expr
end CatalogTypes.TypeBox
