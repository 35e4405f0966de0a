import CatalogTypes.Proofs.TypeBox.Literals

/-! # Balanced code

A reader of code that only looks for where an expression ends keeps the brackets that are open and
knows whether it is in a string. Whatever is written into a type, its strings and brackets are
closed again, so such a reader comes out of it as it went in.
-/
namespace CatalogTypes.TypeBox
open Text

def Bracket.openedBy? (c : CodePoint) : Option Bracket :=
  [round, square, curly].find? (·.opening = c)

/-- Where a reader of code stands: the brackets that are open, the innermost first. -/
structure Scan where
  brackets : List Bracket
  mode : Mode
  deriving DecidableEq

/-- Takes one more code point of code, or nothing if the code cannot go on with it. A comma goes on
between brackets only. -/
def Scan.advanceCode (brackets : List Bracket) (c : CodePoint) : Option Scan :=
  if c = .quotationMark then some ⟨brackets, .quoted⟩
  else match Bracket.openedBy? c with
    | some b => some ⟨b :: brackets, .code⟩
    | none =>
      if isWord c then some ⟨brackets, .code⟩
      else match brackets with
        | [] => none
        | b :: outer =>
          if c = b.closing then some ⟨outer, .code⟩
          else if c = ',' then some ⟨brackets, .code⟩
          else none

def Scan.advance (s : Scan) (c : CodePoint) : Option Scan :=
  match s.mode with
  | .code => advanceCode s.brackets c
  | .quoted =>
    if c = .quotationMark then some ⟨s.brackets, .code⟩
    else if c = .backslash then some ⟨s.brackets, .escaped⟩
    else some s
  | .escaped => some ⟨s.brackets, .quoted⟩

/-- A text that leaves a reader where it was, between the brackets that are open. -/
def Balanced (mode : Mode) (brackets : List Bracket) (t : Text) : Prop :=
  t.foldlM Scan.advance ⟨brackets, mode⟩ = some ⟨brackets, mode⟩

section Balanced
variable {mode : Mode} {brackets : List Bracket} {s t : Text}

theorem balanced_nil : Balanced mode brackets [] := rfl

theorem Balanced.append (hs : Balanced mode brackets s) (ht : Balanced mode brackets t) :
    Balanced mode brackets (s ++ t) := by
  rw [Balanced, List.foldlM_append, hs]
  exact ht

theorem balanced_of_forall (h : ∀ c ∈ t, Scan.advance ⟨brackets, mode⟩ c = some ⟨brackets, mode⟩) :
    Balanced mode brackets t := by
  induction t with
  | nil => exact balanced_nil
  | cons c t ih =>
    obtain ⟨hc, ht⟩ := List.forall_mem_cons.mp h
    rw [Balanced, List.foldlM_cons, hc]
    exact ih ht

theorem balanced_word (h : t.all isWord) : Balanced .code brackets t := by
  refine balanced_of_forall fun c hc => ?_
  have hw := List.all_eq_true.mp h c hc
  have hb : Bracket.openedBy? c = none :=
    List.find?_eq_none.mpr fun b _ he => ne_opening_of_isWord hw b (by simpa [eq_comm] using he)
  simp [Scan.advance, Scan.advanceCode, ne_quotationMark_of_isWord hw, hb, hw]

theorem Balanced.bracket (b : Bracket) (h : Balanced .code (b :: brackets) t) :
    Balanced .code brackets (b.opening :: (t ++ [b.closing])) := by
  have hopen : Scan.advance ⟨brackets, .code⟩ b.opening = some ⟨b :: brackets, .code⟩ := by
    cases b <;> rfl
  have hclose : Scan.advance ⟨b :: brackets, .code⟩ b.closing = some ⟨brackets, .code⟩ := by
    cases b <;> rfl
  rw [Balanced, List.foldlM_cons, hopen]
  change (t ++ [b.closing]).foldlM Scan.advance _ = _
  rw [List.foldlM_append, h]
  change [b.closing].foldlM Scan.advance _ = _
  rw [List.foldlM_cons, hclose]
  rfl

theorem balanced_comma (b : Bracket) : Balanced .code (b :: brackets) (text ",") := by
  cases b <;> rfl

/-- In a string a reader only follows the mode. -/
theorem advance_of_ne_code (h : mode ≠ .code) (c : CodePoint) :
    Scan.advance ⟨brackets, mode⟩ c = some ⟨brackets, mode.next c⟩ := by
  cases mode with
  | code => exact absurd rfl h
  | quoted =>
    simp only [Scan.advance, Mode.next]
    split
    · rfl
    · split <;> rfl
  | escaped => rfl

theorem foldlM_advance_of_met (h : mode.met true t = []) :
    t.foldlM Scan.advance ⟨brackets, mode⟩ = some ⟨brackets, mode.after t⟩ := by
  induction t generalizing mode with
  | nil => rfl
  | cons c t ih =>
    have hm : mode ≠ .code := by
      rintro rfl
      cases h
    rw [Mode.met, if_neg (by simp [hm])] at h
    rw [List.foldlM_cons, advance_of_ne_code hm]
    exact ih h

theorem Quoted.balanced (h : Quoted t) :
    Balanced .code brackets (CodePoint.quotationMark :: (t ++ [CodePoint.quotationMark])) := by
  have ht : t.foldlM Scan.advance ⟨brackets, .quoted⟩ = some ⟨brackets, Mode.quoted.after t⟩ :=
    foldlM_advance_of_met h.code
  rw [h.after] at ht
  change (t ++ [CodePoint.quotationMark]).foldlM Scan.advance ⟨brackets, .quoted⟩ = _
  rw [List.foldlM_append, ht]
  rfl

/-- Code is balanced, between brackets or outside of them as its commas need it. -/
theorem Code.balanced {within : Bool} (h : Code within t) (brackets : List Bracket)
    (hb : within → brackets ≠ []) :
    Balanced .code brackets t := by
  induction h generalizing brackets with
  | word h => exact balanced_word h
  | comma =>
    cases brackets with
    | nil => exact absurd rfl (hb rfl)
    | cons b brackets => exact balanced_comma b
  | string s => exact (quoted_flatMap fun c _ => quoted_escaped c).balanced
  | append _ _ hs ht => exact (hs brackets hb).append (ht brackets hb)
  | bracket b _ h => exact (h (b :: brackets) fun _ => List.cons_ne_nil b brackets).bracket b

end Balanced
end CatalogTypes.TypeBox
