import Mathlib.Data.List.Chain
import Mathlib.Data.List.TakeWhile
import Mathlib.Tactic.MkIffOfInductiveProp
import CatalogTypes.Proofs.Text.Pieces
import CatalogTypes.Settings.Assignment

/-! # Simple environment files

Most environment files only have lines of a simple form: an assignment, a remark behind a number
sign, both or neither. A value stands as it is or between quotes, escapes nothing and refers to
nothing. Whatever is written in this way is read as it is meant, and nothing else is read out of it.
-/
namespace CatalogTypes.EnvFile
open Text Unicode

inductive Style where
  | plain
  | single
  | double
  deriving DecidableEq

/-- A name that is given a value, with the white space around it. -/
structure Assignment where
  /-- The white space behind the word `export`, if that word is there. -/
  exported : Option Text
  name : Text
  before : Text
  behind : Text
  style : Style
  value : Text

structure Line where
  indent : Text
  assignment : Option Assignment
  gap : Text
  /-- What stands behind the number sign, if one is there. -/
  remark : Option Text

namespace Style

def write : Style → Text → Text
  | plain, value => value
  | single, value => CodePoint.apostrophe :: (value ++ [CodePoint.apostrophe])
  | double, value => CodePoint.quotationMark :: (value ++ [CodePoint.quotationMark])

end Style

def remarkText : Option Text → Text
  | none => []
  | some words => '#' :: words

namespace Assignment

def front (a : Assignment) : Text :=
  match a.exported with
  | none => []
  | some blanks => "export" ++ blanks

def text (a : Assignment) : Text :=
  a.front ++ (a.name ++ (a.before ++ ("=" ++ (a.behind ++ a.style.write a.value))))

end Assignment

namespace Line

def text (l : Line) : Text :=
  l.indent ++ ((l.assignment.elim [] Assignment.text) ++ (l.gap ++ remarkText l.remark))

def statement? (l : Line) : Option Statement :=
  match l.assignment, l.remark with
  | some a, _ => some (.binding ⟨a.name, some a.value⟩)
  | none, some _ => some .comment
  | none, none => none

end Line

def assignments (lines : List Line) : List (Text × Text) :=
  lines.filterMap fun l => l.assignment.map fun a => (a.name, a.value)

def isKeyPart (c : CodePoint) : Bool :=
  !isNameEnd c && c ≠ .apostrophe && c ≠ 0 && c ≠ 0xFEFF

def IsKey (t : Text) : Prop := ∀ c ∈ t, isKeyPart c

def Gap (t : Text) : Prop := ∀ c ∈ t, isInnerBlank c

def OneLine (t : Text) : Prop := ∀ c ∈ t, isLineEnd c = false

def isQuote (c : CodePoint) : Bool := c = .apostrophe || c = .quotationMark

/-- Nowhere does a code point of one class stand right before one of another. -/
def Apart (p q : CodePoint → Bool) (t : Text) : Prop := List.IsChain (fun c d => ¬ (p c ∧ q d)) t

/-- A value that can be written without quotes behind some white space. -/
@[mk_iff]
structure Plain (behind value : Text) : Prop where
  line : OneLine value
  first : Ends isBlank value
  last : Ends isBlank value.reverse
  unquoted : Ends isQuote value
  unremarked : Apart isBlank (· = '#') (behind ++ value)

/-- A value that can be written in a style, behind some white space and before a gap and
perhaps a remark. -/
def Style.Suits (behind value gap : Text) (remark : Option Text) : Style → Prop
  | plain => Plain behind value ∧ (remark.isSome → gap ≠ [])
  | single => CodePoint.apostrophe ∉ value ∧ CodePoint.backslash ∉ value
  | double => CodePoint.quotationMark ∉ value ∧ CodePoint.backslash ∉ value

@[mk_iff]
structure Assignment.Simple (a : Assignment) (gap : Text) (remark : Option Text) : Prop where
  name_ne_nil : a.name ≠ []
  name : IsKey a.name
  exported : ∀ blanks ∈ a.exported, blanks ≠ [] ∧ Gap blanks
  before : Gap a.before
  behind : Gap a.behind
  value : a.style.Suits a.behind a.value gap remark
  refersToNone : Apart (· = '$') (· = '\x7b') a.value
  noNull : 0 ∉ a.value
  /-- The word `export` is no name if white space follows it. -/
  unexported : a.exported = none → a.name = "export" → a.before = []

@[mk_iff]
structure Line.Simple (l : Line) : Prop where
  indent : Gap l.indent
  gap : Gap l.gap
  remark : ∀ words ∈ l.remark, OneLine words
  assignment : ∀ a ∈ l.assignment, a.Simple l.gap l.remark

section Decidable
variable {behind value gap t : Text} {remark : Option Text}

instance : Decidable (IsKey t) := List.decidableBAll _ t

instance : Decidable (Gap t) := List.decidableBAll _ t

instance : Decidable (OneLine t) := List.decidableBAll _ t

instance (p q : CodePoint → Bool) : Decidable (Apart p q t) :=
  inferInstanceAs (Decidable (List.IsChain (fun c d => ¬ (p c ∧ q d)) t))

instance (p : CodePoint → Bool) : (t : Text) → Decidable (Ends p t)
  | [] => isTrue nofun
  | c :: t => decidable_of_iff (p c = false) ⟨fun h => ends_cons h t, fun h => h c rfl⟩

instance : Decidable (Plain behind value) := decidable_of_iff' _ (plain_iff behind value)

instance : (style : Style) → Decidable (style.Suits behind value gap remark)
  | .plain => inferInstanceAs (Decidable (Plain behind value ∧ (remark.isSome → gap ≠ [])))
  | .single =>
    inferInstanceAs (Decidable (CodePoint.apostrophe ∉ value ∧ CodePoint.backslash ∉ value))
  | .double =>
    inferInstanceAs (Decidable (CodePoint.quotationMark ∉ value ∧ CodePoint.backslash ∉ value))

instance (a : Assignment) : Decidable (a.Simple gap remark) :=
  decidable_of_iff' _ (Assignment.simple_iff a gap remark)

instance (l : Line) : Decidable l.Simple := decidable_of_iff' _ (Line.simple_iff l)

end Decidable

section Blanks
variable {c : CodePoint} {s t gap value : Text}

theorem isBlank_of_isInnerBlank (h : isInnerBlank c) : isBlank c := by
  rw [isInnerBlank, Bool.and_eq_true] at h
  exact h.1

theorem Gap.blank (h : Gap t) : ∀ c ∈ t, isBlank c := fun c hc => isBlank_of_isInnerBlank (h c hc)

theorem Gap.line (h : Gap t) : ∀ c ∈ t, !isLineEnd c := by
  intro c hc
  have hi := h c hc
  rw [isInnerBlank, Bool.and_eq_true] at hi
  exact hi.2

theorem Gap.append (hs : Gap s) (ht : Gap t) : Gap (s ++ t) := List.forall_mem_append.mpr ⟨hs, ht⟩

theorem isInnerBlank_eq_false (h : isBlank c = false) : isInnerBlank c = false := by
  rw [isInnerBlank, h]
  rfl

theorem Ends.inner (h : Ends isBlank t) : Ends isInnerBlank t :=
  fun c hc => isInnerBlank_eq_false (h c hc)

theorem skipBlanks_append (hs : Gap s) (ht : Ends isInnerBlank t) : skipBlanks (s ++ t) = t :=
  dropWhile_append_of_ends hs ht

theorem trim_append (hs : ∀ c ∈ s, isBlank c) (hg : ∀ c ∈ gap, isBlank c) (hf : Ends isBlank value)
    (hl : Ends isBlank value.reverse) : trim (s ++ (value ++ gap)) = value := by
  have hright : trimRight (value ++ gap) = value := by
    have hgap : ∀ c ∈ gap.reverse, isBlank c := fun c hc => hg c (List.mem_reverse.mp hc)
    rw [trimRight, List.reverse_append, dropWhile_append_of_ends hgap hl, List.reverse_reverse]
  cases value with
  | nil =>
    have hall : ∀ c ∈ s ++ gap, isBlank c := List.forall_mem_append.mpr ⟨hs, hg⟩
    rw [List.nil_append, trim, List.dropWhile_eq_nil_iff.mpr hall]
    rfl
  | cons c value =>
    have hvalue : Ends isBlank (c :: value ++ gap) := ends_cons (hf c rfl) _
    rw [trim, dropWhile_append_of_ends hs hvalue, hright]

end Blanks

section Comment
variable {s t gap words : Text}

/-- Behind white space a number sign opens a comment. -/
theorem dropComment_remark (hg : ∀ c ∈ gap, isBlank c) (hne : gap ≠ []) (words : Text) :
    dropComment (gap ++ ('#' : CodePoint) :: words) = [] := by
  obtain ⟨c, gap, rfl⟩ := List.exists_cons_of_ne_nil hne
  obtain ⟨hc, hgap⟩ := List.forall_mem_cons.mp hg
  have hends : Ends isBlank (('#' : CodePoint) :: words) := ends_cons (by decide) _
  rw [List.cons_append, dropComment, if_pos]
  exact ⟨hc, by rw [dropWhile_append_of_ends hgap hends]; rfl⟩

/-- White space before the end of a text opens no comment. -/
theorem dropComment_gap (hg : ∀ c ∈ gap, isBlank c) : dropComment gap = gap := by
  induction gap with
  | nil => rfl
  | cons c gap ih =>
    obtain ⟨_, hgap⟩ := List.forall_mem_cons.mp hg
    rw [dropComment, if_neg, ih hgap]
    rw [List.dropWhile_eq_nil_iff.mpr hgap]
    exact fun h => nomatch h.2

/-- If no white space stands before a number sign, then none does with more white space between. -/
theorem head?_dropWhile_ne {c : CodePoint} (h : Apart isBlank (· = '#') (c :: s)) (hc : isBlank c) :
    (s.dropWhile isBlank).head? ≠ some ('#' : CodePoint) := by
  induction s generalizing c with
  | nil => exact nofun
  | cons d s ih =>
    obtain ⟨hpair, hrest⟩ := List.isChain_cons_cons.mp h
    rw [List.dropWhile_cons]
    split
    next hd => exact ih hrest hd
    · intro hs
      exact hpair ⟨hc, decide_eq_true (Option.some.inj hs)⟩

/-- What follows a text is not reached from its beginning past a code point of another class. -/
theorem head?_dropWhile_append {p : CodePoint → Bool} (h : ∃ c ∈ s, p c = false) (t : Text) :
    ((s ++ t).dropWhile p).head? = (s.dropWhile p).head? := by
  induction s with
  | nil => exact absurd h (by simp)
  | cons c s ih =>
    rw [List.cons_append, List.dropWhile_cons, List.dropWhile_cons]
    cases hc : p c with
    | false => rfl
    | true =>
      obtain ⟨d, hd, hpd⟩ := h
      rcases List.mem_cons.mp hd with rfl | hd
      · exact absurd hc (by simp [hpd])
      · exact ih ⟨d, hd, hpd⟩

/-- A text in which no comment opens, and which does not end in white space, is kept
whatever follows. -/
theorem dropComment_append (h : Apart isBlank (· = '#') s) (hl : Ends isBlank s.reverse)
    (t : Text) :
    dropComment (s ++ t) = s ++ dropComment t := by
  induction s with
  | nil => rfl
  | cons c s ih =>
    have hc : ¬ (isBlank c ∧ (s.dropWhile isBlank).head? = some ('#' : CodePoint)) :=
      fun hc => head?_dropWhile_ne h hc.1 hc.2
    cases hr : s.reverse with
    | nil =>
      obtain rfl := List.reverse_eq_nil_iff.mp hr
      have hblank : isBlank c = false := hl c rfl
      rw [List.singleton_append, dropComment, if_neg (by simp [hblank])]
      rfl
    | cons e rest =>
      have hlast : isBlank e = false := by
        refine hl e ?_
        rw [List.reverse_cons, hr]
        rfl
      have hmem : e ∈ s := List.mem_reverse.mp (hr ▸ List.mem_cons_self)
      have hrest : Ends isBlank s.reverse := hr ▸ ends_cons hlast rest
      rw [List.cons_append, dropComment, head?_dropWhile_append ⟨e, hmem, hlast⟩, if_neg hc,
        ih h.tail hrest]
      rfl

/-- Of what stands behind a value only white space is kept. -/
theorem isBlank_of_mem_dropComment (hg : ∀ c ∈ gap, isBlank c) {remark : Option Text}
    (hr : remark.isSome → gap ≠ []) :
    ∀ c ∈ dropComment (gap ++ remarkText remark), isBlank c := by
  cases remark with
  | none =>
    rw [remarkText, List.append_nil, dropComment_gap hg]
    exact hg
  | some words =>
    rw [remarkText, dropComment_remark hg (hr rfl)]
    exact List.forall_mem_nil _

end Comment

/-- What stands behind a line: nothing, or the end of the line and the next ones. -/
def LineTail (t : Text) : Prop := ∀ c ∈ t.head?, c = '\n'

section Value
variable {behind value gap tail : Text} {remark : Option Text}

theorem LineTail.ends (h : LineTail tail) {p : CodePoint → Bool} (hp : p '\n' = false) :
    Ends p tail := by
  intro c hc
  rw [h c hc, hp]

theorem ends_remarkText {p : CodePoint → Bool} (hsign : p '#' = false) (hend : p '\n' = false)
    (ht : LineTail tail) :
    Ends p (remarkText remark ++ tail) := by
  cases remark with
  | none => exact ht.ends hend
  | some words => exact ends_cons hsign _

theorem unquotedValue_line (hv : Plain behind value) (hb : Gap behind) (hg : Gap gap)
    (hr : remark.isSome → gap ≠ []) :
    unquotedValue (behind ++ (value ++ (gap ++ remarkText remark))) = value := by
  rw [unquotedValue]
  cases value with
  | nil =>
    have hblank : ∀ c ∈ dropComment (behind ++ gap ++ remarkText remark), isBlank c :=
      isBlank_of_mem_dropComment (hb.append hg).blank fun hs =>
        List.append_ne_nil_of_right_ne_nil _ (hr hs)
    have htrim := trim_append hblank (List.forall_mem_nil _) hv.first hv.last
    simpa using htrim
  | cons c value =>
    have hlast : Ends isBlank (behind ++ c :: value).reverse := by
      obtain ⟨d, rest, hd⟩ :=
        List.exists_cons_of_ne_nil (List.reverse_ne_nil_iff.mpr (List.cons_ne_nil c value))
      have hl := hv.last
      rw [hd] at hl
      rw [List.reverse_append, hd, List.cons_append]
      exact ends_cons (hl d rfl) _
    rw [← List.append_assoc, dropComment_append hv.unremarked hlast, List.append_assoc]
    exact trim_append hb.blank (isBlank_of_mem_dropComment hg.blank hr) hv.first hv.last

/-- A value that no quotation mark opens goes on up to the end of the line. -/
theorem value?_of_unquoted {t : Text} (h : Ends isQuote (skipBlanks t)) :
    value? t = some (unquotedValue (t.takeWhile (!isLineEnd ·)), t.dropWhile (!isLineEnd ·)) := by
  rw [value?]
  split
  next hs =>
    have hinner : Gap t := List.dropWhile_eq_nil_iff.mp hs
    have htrim := @trim_append t [] [] hinner.blank (List.forall_mem_nil _) nofun nofun
    rw [List.takeWhile_eq_self_iff.mpr hinner.line, List.dropWhile_eq_nil_iff.mpr hinner.line,
      unquotedValue, dropComment_gap hinner.blank]
    simpa using htrim.symm
  next c rest hs =>
    have hquote := h c (by rw [hs]; rfl)
    simp only [isQuote, Bool.or_eq_false_iff, decide_eq_false_iff_not] at hquote
    rw [if_neg hquote.1, if_neg hquote.2]

theorem quotedBody?_append {quote : CodePoint} (hq : quote ∉ value)
    (hb : CodePoint.backslash ∉ value) (t : Text) :
    quotedBody? quote false (value ++ quote :: t) = some (value, t) := by
  induction value with
  | nil => simp [quotedBody?]
  | cons c value ih =>
    rw [List.mem_cons, not_or] at hq hb
    have hc : decide (c = CodePoint.backslash) = false := decide_eq_false (Ne.symm hb.1)
    rw [List.cons_append, quotedBody?, if_neg (by simp [Ne.symm hq.1]), hc]
    simp only [Bool.false_and, ih hq.2 hb.2]
    rfl

theorem unescape_eq_self (escape? : CodePoint → Option CodePoint)
    (h : CodePoint.backslash ∉ value) :
    unescape escape? value = value := by
  fun_induction unescape escape? value with
  | case1 => rfl
  | case2 c => rfl
  | case3 c d rest e he ih =>
    rw [List.mem_cons, not_or] at h
    rw [if_neg (Ne.symm h.1)] at he
    cases he
  | case4 c d rest he ih => rw [ih fun hm => h (List.mem_cons_of_mem _ hm)]

theorem value?_quoted {quote : CodePoint} {escape? : CodePoint → Option CodePoint}
    (he : quote = .apostrophe ∧ escape? = singleEscape? ∨ quote = .quotationMark ∧
      escape? = doubleEscape?)
    (hb : Gap behind) (hq : quote ∉ value) (hs : CodePoint.backslash ∉ value) (t : Text) :
    value? (behind ++ (quote :: (value ++ [quote]) ++ t)) = some (value, t) := by
  have hquote : isInnerBlank quote = false := by
    rcases he with ⟨rfl, _⟩ | ⟨rfl, _⟩
    · decide
    · decide
  have hskip : skipBlanks (behind ++ (quote :: (value ++ [quote]) ++ t)) = quote ::
      (value ++ quote :: t) := by
    rw [List.cons_append, skipBlanks_append hb (ends_cons hquote _), List.append_assoc]
    rfl
  have hread : (quotedBody? quote false (value ++ quote :: t)).map
      (fun read => (unescape escape? read.1, read.2)) =
      some (value, t) := by
    rw [quotedBody?_append hq hs]
    simp only [Option.map_some, unescape_eq_self escape? hs]
  rw [value?, hskip]
  rcases he with ⟨rfl, rfl⟩ | ⟨rfl, rfl⟩
  · exact hread
  · exact hread

theorem line_remarkText (hr : ∀ words ∈ remark, OneLine words) :
    ∀ c ∈ remarkText remark, !isLineEnd c := by
  cases remark with
  | none => exact List.forall_mem_nil _
  | some words =>
    exact List.forall_mem_cons.mpr ⟨by decide, fun c hc => by simp [hr words rfl c hc]⟩

theorem afterBinding?_line (hg : Gap gap) (hr : ∀ words ∈ remark, OneLine words)
    (ht : LineTail tail) :
    afterBinding? (gap ++ (remarkText remark ++ tail)) = some (tail.drop 1) := by
  have hend : Ends (!isLineEnd ·) tail := ht.ends (by decide)
  rw [afterBinding?, skipBlanks_append hg (ends_remarkText (by decide) (by decide) ht)]
  have hline : (if (remarkText remark ++ tail).head? = some ('#' : CodePoint) then
      (remarkText remark ++ tail).dropWhile (!isLineEnd ·) else remarkText remark ++ tail) =
        tail := by
    cases remark with
    | none =>
      refine if_neg fun h => ?_
      exact absurd (ht _ h) (by decide)
    | some words =>
      have hhead : (remarkText (some words) ++ tail).head? = some ('#' : CodePoint) := rfl
      rw [if_pos hhead, dropWhile_append_of_ends (line_remarkText hr) hend]
  simp only [hline]
  cases tail with
  | nil => rfl
  | cons c tail =>
    obtain rfl := ht c rfl
    rfl

/-- A value is read as it is meant, in whichever style it is written, and so is the end of its
line. -/
theorem value?_write {style : Style} (hv : style.Suits behind value gap remark) (hb : Gap behind)
    (hg : Gap gap) (hr : ∀ words ∈ remark, OneLine words) (ht : LineTail tail) :
    ∃ rest, value? (behind ++ (style.write value ++ (gap ++ (remarkText remark ++ tail)))) =
      some (value, rest) ∧
      afterBinding? rest = some (tail.drop 1) := by
  cases style with
  | single => exact ⟨_, value?_quoted (.inl ⟨rfl, rfl⟩) hb hv.1 hv.2 _, afterBinding?_line hg hr ht⟩
  | double => exact ⟨_, value?_quoted (.inr ⟨rfl, rfl⟩) hb hv.1 hv.2 _, afterBinding?_line hg hr ht⟩
  | plain =>
    obtain ⟨hplain, hgap⟩ := hv
    have hend : Ends (!isLineEnd ·) tail := ht.ends (by decide)
    have hnone : afterBinding? tail = some (tail.drop 1) :=
      @afterBinding?_line [] tail none (List.forall_mem_nil _) nofun ht
    have hline : ∀ c ∈ behind ++ (value ++ (gap ++ remarkText remark)), !isLineEnd c := by
      have hvalue : ∀ c ∈ value, !isLineEnd c := fun c hc => by simp [hplain.line c hc]
      simp only [List.forall_mem_append]
      exact ⟨hb.line, hvalue, hg.line, line_remarkText hr⟩
    have htext : behind ++ (value ++ (gap ++ (remarkText remark ++ tail))) =
        behind ++ (value ++ (gap ++ remarkText remark)) ++ tail := by simp only [List.append_assoc]
    have hopen : Ends isQuote
        (skipBlanks (behind ++ (value ++ (gap ++ (remarkText remark ++ tail))))) := by
      cases value with
      | nil =>
        rw [List.nil_append, ← List.append_assoc, skipBlanks_append (hb.append hg)
          (ends_remarkText (by decide) (by decide) ht)]
        exact ends_remarkText (by decide) (by decide) ht
      | cons d value =>
        have hd : isInnerBlank d = false := isInnerBlank_eq_false (hplain.first d rfl)
        rw [List.cons_append, skipBlanks_append hb (ends_cons hd _)]
        exact ends_cons (hplain.unquoted d rfl) _
    refine ⟨tail, ?_, hnone⟩
    rw [Style.write, value?_of_unquoted hopen, htext, takeWhile_append_of_ends hline hend,
      dropWhile_append_of_ends hline hend, unquotedValue_line hplain hb hg hgap]

end Value

end CatalogTypes.EnvFile
