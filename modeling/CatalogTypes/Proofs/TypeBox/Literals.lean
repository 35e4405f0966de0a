import CatalogTypes.Proofs.TypeBox.Code

/-! # Literals stay closed

Texts of a catalog come into a type as keys and as literals. A lexer that knows only quotation marks
and backslashes finds every string of the type closed where its literal ends, with no control
character in it, and the brackets between the strings nested, whatever these texts are.
-/
namespace CatalogTypes.TypeBox
open Text

/-- In code, in a string, or behind a backslash in a string. -/
inductive Mode where
  | code
  | quoted
  | escaped
  deriving DecidableEq

namespace Mode

/-- The mode behind one more code point. Behind a backslash any code point is a part of the
string. -/
def next : Mode → CodePoint → Mode
  | .code, c => if c = .quotationMark then .quoted else .code
  | .quoted, c => if c = .quotationMark then .code else if c = .backslash then .escaped else .quoted
  | .escaped, _ => .quoted

def after (m : Mode) (t : Text) : Mode := t.foldl next m

/-- The code points of a text that are met outside of its strings, or those that are met inside. -/
def met (outside : Bool) : Mode → Text → Text
  | _, [] => []
  | m, c :: t => if decide (m = .code) = outside then c :: met outside (m.next c) t
      else met outside (m.next c) t

variable {m : Mode} {s t : Text} {outside : Bool}

theorem after_append : m.after (s ++ t) = (m.after s).after t := List.foldl_append

theorem met_append : m.met outside (s ++ t) = m.met outside s ++ (m.after s).met outside t := by
  induction s generalizing m with
  | nil => rfl
  | cons c s ih =>
    simp only [List.cons_append, met]
    split
    · rw [ih]
      rfl
    · exact ih

theorem met_subset : m.met outside t ⊆ t := by
  induction t generalizing m with
  | nil => exact List.Subset.refl _
  | cons c t ih =>
    unfold met
    split
    · exact List.cons_subset_cons c ih
    · exact List.subset_cons_of_subset c ih

theorem of_unquoted (h : ∀ c ∈ t, c ≠ .quotationMark) :
    code.after t = .code ∧ code.met true t = t ∧ code.met false t = [] := by
  induction t with
  | nil => exact ⟨rfl, rfl, rfl⟩
  | cons c t ih =>
    obtain ⟨hc, ht⟩ := List.forall_mem_cons.mp h
    have hnext : code.next c = code := if_neg hc
    obtain ⟨ha, hm, hs⟩ := ih ht
    refine ⟨?_, ?_, ?_⟩
    · rw [after, List.foldl_cons, hnext]
      exact ha
    · rw [met, hnext, if_pos (by decide), hm]
    · rw [met, hnext, if_neg (by decide), hs]

end Mode

/-- A text that can stand in a string: it does not end the string, nor does it leave a backslash
open, and no control character is in it. -/
structure Quoted (t : Text) : Prop where
  after : Mode.quoted.after t = .quoted
  code : Mode.quoted.met true t = []
  printable : ∀ c ∈ t, 0x20 ≤ c.val

section Quoted
variable {s t : Text}

theorem quoted_nil : Quoted [] := ⟨rfl, rfl, List.forall_mem_nil _⟩

theorem Quoted.append (hs : Quoted s) (ht : Quoted t) : Quoted (s ++ t) where
  after := by rw [Mode.after_append, hs.after, ht.after]
  code := by rw [Mode.met_append, hs.code, hs.after, ht.code, List.append_nil]
  printable := List.forall_mem_append.mpr ⟨hs.printable, ht.printable⟩

theorem quoted_backslash {c : CodePoint} (hc : 0x20 ≤ c.val) : Quoted [CodePoint.backslash, c] :=
  ⟨rfl, rfl, List.forall_mem_cons.mpr ⟨by decide, List.forall_mem_singleton.mpr hc⟩⟩

theorem quoted_singleton {c : CodePoint} (hq : c ≠ .quotationMark) (hb : c ≠ .backslash)
    (hc : 0x20 ≤ c.val) :
    Quoted [c] := by
  refine ⟨?_, rfl, List.forall_mem_singleton.mpr hc⟩
  simp [Mode.after, Mode.next, hq, hb]

theorem quoted_flatMap {α : Type} {f : α → Text} {as : List α} (h : ∀ a ∈ as, Quoted (f a)) :
    Quoted (as.flatMap f) := by
  induction as with
  | nil => exact quoted_nil
  | cons a as ih =>
    obtain ⟨ha, has⟩ := List.forall_mem_cons.mp h
    exact ha.append (ih has)

theorem quoted_hex (width n : Nat) : Quoted (Text.hex width n) := by
  have hdigit : ∀ d < 16, CodePoint.ofChar (Nat.digitChar d) ≠ .quotationMark ∧
      CodePoint.ofChar (Nat.digitChar d) ≠ .backslash ∧
      0x20 ≤ (CodePoint.ofChar (Nat.digitChar d)).val := by decide
  rw [Text.hex, List.map_eq_flatMap]
  refine quoted_flatMap fun i _ => ?_
  obtain ⟨hq, hb, hp⟩ := hdigit (n >>> (4 * i) % 16) (Nat.mod_lt _ (by decide))
  exact quoted_singleton hq hb hp

/-- What is written for a code point of a string can stand in it. -/
theorem quoted_escaped (c : CodePoint) : Quoted (Json.escaped .unicode c) := by
  unfold Json.escaped
  split
  next hc =>
    refine quoted_backslash ?_
    rcases hc with rfl | rfl <;> decide
  next hc =>
  obtain ⟨hq, hb⟩ := not_or.mp hc
  split
  · exact quoted_backslash (c := 'n') (by decide)
  split
  · exact quoted_backslash (c := 'r') (by decide)
  split
  · exact quoted_backslash (c := 't') (by decide)
  split
  · exact quoted_backslash (c := 'b') (by decide)
  split
  · exact quoted_backslash (c := 'f') (by decide)
  split
  · exact (quoted_backslash (c := 'u') (by decide)).append (quoted_hex 4 c.val)
  next hp =>
    rw [if_neg (fun h => absurd h.1 (by decide))]
    exact quoted_singleton hq hb (Nat.le_of_not_lt hp)

end Quoted

/-- The words of brackets that are nested, with anything else between them. -/
inductive Nested : Text → Prop
  | nil : Nested []
  | other {c : CodePoint} {t : Text} (hc : ∀ b : Bracket, c ≠ b.opening ∧ c ≠ b.closing)
    (h : Nested t) : Nested (c :: t)
  | pair {s t : Text} (b : Bracket) (hs : Nested s) (ht : Nested t) :
    Nested (b.opening :: (s ++ b.closing :: t))

theorem Nested.append {s t : Text} (hs : Nested s) (ht : Nested t) : Nested (s ++ t) := by
  induction hs with
  | nil => exact ht
  | other hc _ ih => exact .other hc ih
  | pair b hs _ _ ih =>
    rw [List.cons_append, List.append_assoc, List.cons_append]
    exact .pair b hs ih

theorem nested_of_forall {t : Text} (h : ∀ c ∈ t, ∀ b : Bracket, c ≠ b.opening ∧ c ≠ b.closing) :
    Nested t := by
  induction t with
  | nil => exact .nil
  | cons c t ih =>
    obtain ⟨hc, ht⟩ := List.forall_mem_cons.mp h
    exact .other hc (ih ht)

/-- A text whose strings are closed, without a control character in them, and whose brackets are
nested outside of the strings. -/
structure Closed (t : Text) : Prop where
  after : Mode.code.after t = .code
  strings : ∀ c ∈ Mode.code.met false t, 0x20 ≤ c.val
  brackets : Nested (Mode.code.met true t)

section Closed
variable {s t : Text}

theorem Closed.append (hs : Closed s) (ht : Closed t) : Closed (s ++ t) where
  after := by rw [Mode.after_append, hs.after, ht.after]
  strings := by
    rw [Mode.met_append, hs.after]
    exact List.forall_mem_append.mpr ⟨hs.strings, ht.strings⟩
  brackets := by
    rw [Mode.met_append, hs.after]
    exact hs.brackets.append ht.brackets

theorem closed_of_forall
    (h : ∀ c ∈ t, c ≠ .quotationMark ∧ ∀ b : Bracket, c ≠ b.opening ∧ c ≠ b.closing) :
    Closed t := by
  obtain ⟨ha, hm, hs⟩ := Mode.of_unquoted fun c hc => (h c hc).1
  refine ⟨ha, ?_, ?_⟩
  · rw [hs]
    exact List.forall_mem_nil _
  · rw [hm]
    exact nested_of_forall fun c hc => (h c hc).2

theorem Quoted.closed (h : Quoted t) :
    Closed (CodePoint.quotationMark :: (t ++ [CodePoint.quotationMark])) := by
  have hopen : Mode.code.next .quotationMark = .quoted := rfl
  refine ⟨?_, ?_, ?_⟩
  · rw [Mode.after, List.foldl_cons, hopen]
    change Mode.quoted.after _ = _
    rw [Mode.after_append, h.after]
    rfl
  · rw [Mode.met, hopen, if_neg (by decide)]
    intro c hc
    rcases List.mem_append.mp (Mode.met_subset hc) with hc | hc
    · exact h.printable c hc
    · rw [List.mem_singleton.mp hc]
      decide
  · rw [Mode.met, hopen, if_pos (by decide), Mode.met_append, h.code, h.after]
    exact .other (fun b => by cases b <;> decide) .nil

theorem Closed.bracket (b : Bracket) (h : Closed t) : Closed (b.opening :: (t ++ [b.closing])) := by
  have hopen : Mode.code.next b.opening = .code := by cases b <;> rfl
  have hclose : Mode.code.after [b.closing] = .code ∧ Mode.code.met true [b.closing] = [b.closing] ∧
      Mode.code.met false [b.closing] = [] :=
    Mode.of_unquoted (List.forall_mem_singleton.mpr (by cases b <;> decide))
  refine ⟨?_, ?_, ?_⟩
  · rw [Mode.after, List.foldl_cons, hopen]
    change Mode.code.after _ = _
    rw [Mode.after_append, h.after, hclose.1]
  · rw [Mode.met, hopen, if_neg (by decide), Mode.met_append, h.after, hclose.2.2, List.append_nil]
    exact h.strings
  · rw [Mode.met, hopen, if_pos (by decide), Mode.met_append, h.after, hclose.2.1]
    exact .pair b h.brackets .nil

theorem Code.closed {within : Bool} (h : Code within t) : Closed t := by
  induction h with
  | word h =>
    refine closed_of_forall fun c hc => ?_
    have hw := List.all_eq_true.mp h c hc
    exact ⟨ne_quotationMark_of_isWord hw, fun b =>
      ⟨ne_opening_of_isWord hw b, ne_closing_of_isWord hw b⟩⟩
  | comma =>
    exact closed_of_forall
      (List.forall_mem_singleton.mpr ⟨by decide, fun b => by cases b <;> decide⟩)
  | string s => exact (quoted_flatMap fun c _ => quoted_escaped c).closed
  | append _ _ hs ht => exact hs.append ht
  | bracket b _ h => exact h.bracket b

end Closed

/-- No text of a schema gets out of its literal: whatever the names and the choices of a schema
are, the strings of its type are closed and free of control characters, and the brackets outside
of them are nested. -/
theorem closed_ofSchema (s : Schema Json) (n : Nat) :
    Closed (ofSchema (List.replicate n (' ' : CodePoint)) s) := by
  have hgap : (List.replicate n (' ' : CodePoint)).all isGap := by
    refine List.all_eq_true.mpr fun c hc => ?_
    rw [List.eq_of_mem_replicate hc]
    decide
  exact (Expr.code_render (Expr.ofSchema s) _ hgap false).closed

end CatalogTypes.TypeBox
