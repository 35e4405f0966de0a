import CatalogTypes.Proofs.Decimal.Layout
import CatalogTypes.Proofs.TypeBox.Written

/-! # Code as it is written

Whatever is written into a type is made of four things: words, commas, strings and brackets with
code between them. Names, choices and indentations make no other shapes, so a property of code only
has to be shown of these.
-/
namespace CatalogTypes.TypeBox
open Text

inductive Bracket where
  | round
  | square
  | curly
  deriving DecidableEq

namespace Bracket

def opening : Bracket → CodePoint
  | .round => '('
  | .square => '['
  | .curly => '\x7b'

def closing : Bracket → CodePoint
  | .round => ')'
  | .square => ']'
  | .curly => '\x7d'

end Bracket

def isGap (c : CodePoint) : Bool :=
  [0x09, 0x0A, 0x0B, 0x0C, 0x0D, 0x20, 0xA0, 0x1680, 0x2028, 0x2029, 0x202F, 0x205F, 0x3000,
    0xFEFF].contains c.val ||
    (0x2000 ≤ c.val && c.val ≤ 0x200A)

def isWord (c : CodePoint) : Bool :=
  Expr.isNamePart c || isGap c || c = '.' || c = '+' || c = '-' || c = ':'

theorem ne_quotationMark_of_isWord {c : CodePoint} (h : isWord c) : c ≠ .quotationMark := by
  rintro rfl
  exact absurd h (by decide)

theorem ne_opening_of_isWord {c : CodePoint} (h : isWord c) (b : Bracket) : c ≠ b.opening := by
  rintro rfl
  revert h
  cases b <;> decide

theorem ne_closing_of_isWord {c : CodePoint} (h : isWord c) (b : Bracket) : c ≠ b.closing := by
  rintro rfl
  revert h
  cases b <;> decide

/-- What code can be. A comma stands between brackets only. -/
inductive Code : (within : Bool) → Text → Prop
  | word {within : Bool} {t : Text} (h : t.all isWord) : Code within t
  | comma : Code true (text ",")
  | string {within : Bool} (s : Text) : Code within (Json.writeString .unicode s)
  | append {within : Bool} {s t : Text} (hs : Code within s) (ht : Code within t) :
    Code within (s ++ t)
  | bracket {within : Bool} {t : Text} (b : Bracket) (h : Code true t) :
    Code within (b.opening :: (t ++ [b.closing]))

theorem isWord_of_isNumeric {t : Text} (h : t.IsNumeric) : t.all isWord := by
  refine List.all_eq_true.mpr fun c hc => ?_
  rcases h c hc with ha | rfl | rfl | rfl
  · simp [isWord, Expr.isNamePart, ha]
  · rfl
  · rfl
  · rfl

theorem code_comma_space : Code true (text ", ") := .append .comma (.word (by decide))

mutual

theorem code_write (within : Bool) : ∀ v : Json, Code within (v.write .unicode)
  | .null => .word (by decide)
  | .bool true => .word (by decide)
  | .bool false => .word (by decide)
  | .int n => .word (isWord_of_isNumeric (isNumeric_ofInt n))
  | .float x => .word (isWord_of_isNumeric (Binary64.isNumeric_render (by decide) (by decide) x))
  | .string s => .string s
  | .array items => .bracket .square (code_writeItems items)
  | .object members => .bracket .curly (code_writeMembers members)

theorem code_writeItems : ∀ items : List Json, Code true (Json.writeItems .unicode items)
  | [] => .word rfl
  | [item] => code_write true item
  | item :: next :: rest =>
    ((code_write true item).append code_comma_space).append (code_writeItems (next :: rest))

theorem code_writeMembers : ∀ members : List (Text × Json), Code true
    (Json.writeMembers .unicode members)
  | [] => .word rfl
  | [(name, value)] =>
    ((Code.string name).append (.word (t := text ": ") (by decide))).append (code_write true value)
  | (name, value) :: next :: rest =>
    ((((Code.string name).append (.word (t := text ": ") (by decide))).append
      (code_write true value)).append
      code_comma_space).append (code_writeMembers (next :: rest))

end

namespace Expr
variable {within : Bool}

theorem code_key (name : Text) : Code within (key name) := by
  unfold key
  split
  next h =>
    obtain ⟨body, tail, rfl, hb, _, ht⟩ := isPlainKey_cases h
    have hbody : body.all isWord := List.all_eq_true.mpr fun c hc => by simp [isWord, hb c hc]
    have htail : tail.all isWord := by rcases ht with rfl | rfl <;> decide
    exact (Code.word hbody).append (.word htail)
  · exact .string name

theorem code_call {name arguments : Text} (hn : name.all isWord) (h : Code true arguments) :
    Code within (call name arguments) :=
  (Code.word (t := text "Type.") (by decide)).append ((Code.word hn).append (.bracket .round h))

theorem code_optional {required : Bool} {type : Text} (h : ∀ within, Code within type) :
    Code within (optional required type) := by
  cases required with
  | false => exact code_call (by decide : (text "Optional").all isWord) (h true)
  | true => exact h within

theorem code_gap {indent : Text} (hi : indent.all isGap) : Code within indent := by
  refine .word (List.all_eq_true.mpr fun c hc => ?_)
  simp [isWord, List.all_eq_true.mp hi c hc]

theorem code_intercalate {separator : Text} {pieces : List Text} (hs : Code true separator)
    (h : ∀ piece ∈ pieces, Code true piece) : Code true (List.intercalate separator pieces) :=
  Text.intercalate_induction (.word rfl) (fun _ _ => Code.append) hs h

theorem code_literal (v : Json) : Code within (literal v) := by
  have hl : literal v = call "Literal" v.encode := by
    have hopen : text "Type.Literal(" = text "Type." ++ (text "Literal" ++ text "(") := rfl
    simp [literal, call, hopen]
  rw [hl]
  exact code_call (by decide) (code_write true v)

theorem code_field {indent : Text} (hi : indent.all isGap) {f : Text × Bool × Expr}
    (h : ∀ within, Code within (f.2.2.render indent)) : Code within (field indent f) :=
  (((code_gap hi).append (code_key f.1)).append (.word (t := text ": ") (by decide))).append
    (code_optional h)

mutual

theorem code_arguments : ∀ (e : Expr) (indent : Text), indent.all isGap →
    Code true (e.arguments indent)
  | .any, _, _ | .string, _, _ | .number, _, _ | .integer, _, _ | .boolean, _, _ | .null, _,
    _ => .word rfl
  | .union literals, _, _ => by
    have hl : ∀ piece ∈ literals.map literal, Code true piece := by
      intro piece hp
      obtain ⟨v, _, rfl⟩ := List.mem_map.mp hp
      exact code_literal v
    exact .bracket .square (code_intercalate code_comma_space hl)
  | .array items, indent, hi => code_render items indent hi true
  | .object [], _, _ => .bracket (t := []) .curly (.word rfl)
  | .object (f :: fields), indent, hi => by
    have hindented : (indent ++ indentation).all isGap := by
      rw [List.all_append, hi]
      rfl
    have hseparator : Code true (text ",\n") :=
      Code.comma.append (.word (t := text "\n") (by decide))
    have hfields := code_intercalate hseparator (code_fields (f :: fields) _ hindented)
    have hbreak : Code true (text "\n") := .word (by decide)
    have hbody := ((hbreak.append hfields).append hbreak).append (code_gap hi)
    simpa [arguments, text, Bracket.opening, Bracket.closing] using Code.bracket .curly hbody

theorem code_fields : ∀ (fields : List (Text × Bool × Expr)) (indent : Text),
    indent.all isGap → ∀ piece ∈ fields.map (field indent), Code true piece
  | [], _, _ => List.forall_mem_nil _
  | (_, _, e) :: fields, indent, hi => List.forall_mem_cons.mpr
    ⟨code_field hi (code_render e indent hi), code_fields fields indent hi⟩

/-- An expression is code, whatever gap it is indented by. -/
theorem code_render : ∀ (e : Expr) (indent : Text), indent.all isGap →
    ∀ within, Code within (e.render indent)
  | e, indent, hi, within => by
    have hname : e.builder.name.all isWord := by cases e.builder <;> decide
    rw [render_eq]
    exact code_call hname (code_arguments e indent hi)

end

end Expr
end CatalogTypes.TypeBox
